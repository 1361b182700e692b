namespace EmulatedShell

/-- The pairs after a value is put under a key: a key that is there keeps its place, a new one goes
to the end. -/
def putPair {α : Type} (key : String) (value : α) : List (String × α) → List (String × α)
  | [] => [(key, value)]
  | pair :: rest =>
    if pair.1 = key then (key, value) :: rest else pair :: putPair key value rest

theorem mem_keys_putPair {α : Type} {key k : String} {value : α} {pairs : List (String × α)} :
    k ∈ (putPair key value pairs).map Prod.fst ↔ k = key ∨ k ∈ pairs.map Prod.fst := by
  induction pairs with
  | nil => simp [putPair]
  | cons pair rest ih =>
    unfold putPair
    split
    next h => simp [h]
    next => rw [List.map_cons, List.mem_cons, ih, List.map_cons, List.mem_cons]; grind

theorem keys_putPair_nodup {α : Type} {key : String} {value : α} {pairs : List (String × α)}
    (h : (pairs.map Prod.fst).Nodup) : ((putPair key value pairs).map Prod.fst).Nodup := by
  induction pairs with
  | nil => simp [putPair]
  | cons pair rest ih =>
    rw [List.map_cons, List.nodup_cons] at h
    unfold putPair
    split
    next hk => simpa [← hk] using h
    next hk =>
      rw [List.map_cons, List.nodup_cons]
      exact ⟨fun hm => (mem_keys_putPair.mp hm).elim hk h.1, ih h.2⟩

/-- A table from keys to values that remembers the order in which its keys came. -/
structure Table (α : Type) where
  entries : List (String × α)
  keys_nodup : (entries.map Prod.fst).Nodup

namespace Table

variable {α β : Type}

/-- The table without entries. -/
def empty : Table α := ⟨[], List.nodup_nil⟩

/-- The table with a value put under a key. -/
def insert (t : Table α) (key : String) (value : α) : Table α :=
  ⟨putPair key value t.entries, keys_putPair_nodup t.keys_nodup⟩

/-- The table of the pairs of a list, the last value of each key in the place of its first. -/
def ofList (pairs : List (String × α)) : Table α :=
  pairs.foldl (fun t pair => t.insert pair.1 pair.2) empty

/-- The value under a key. -/
def get? (t : Table α) (key : String) : Option α := t.entries.lookup key

/-- The keys in the order in which they came. -/
def keys (t : Table α) : List String := t.entries.map Prod.fst

/-- The values in the order of their keys. -/
def values (t : Table α) : List α := t.entries.map Prod.snd

/-- The number of keys. -/
def size (t : Table α) : Nat := t.entries.length

/-- There is a value under a key. -/
def has (t : Table α) (key : String) : Bool := (t.get? key).isSome

/-- The keys in the order of their code points. -/
def sortedKeys (t : Table α) : List String := t.keys.mergeSort fun a b => decide (a ≤ b)

/-- The table with every value replaced by its image. -/
def map (f : α → β) (t : Table α) : Table β :=
  ⟨t.entries.map fun pair => (pair.1, f pair.2), by simpa [Function.comp_def] using t.keys_nodup⟩

end Table

end EmulatedShell

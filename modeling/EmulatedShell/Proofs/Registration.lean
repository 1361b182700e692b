import EmulatedShell.Proofs.Lookup
import Mathlib.Data.Finset.Card

namespace EmulatedShell

variable {α β : Type}

theorem map_fst_putPair (key : String) (value : α) (pairs : List (String × α)) :
    (putPair key value pairs).map Prod.fst =
      if key ∈ pairs.map Prod.fst then pairs.map Prod.fst else pairs.map Prod.fst ++ [key] := by
  induction pairs with
  | nil => simp [putPair]
  | cons pair rest ih =>
    unfold putPair
    split
    next h => simp [h]
    next h =>
      have other : key ≠ pair.1 := fun same => h same.symm
      rw [List.map_cons, ih]
      by_cases later : key ∈ rest.map Prod.fst <;> simp [later, other]

theorem putPair_map_snd (f : α → β) (key : String) (value : α) (pairs : List (String × α)) :
    (putPair key value pairs).map (fun pair => (pair.1, f pair.2)) =
      putPair key (f value) (pairs.map fun pair => (pair.1, f pair.2)) := by
  induction pairs with
  | nil => rfl
  | cons pair rest ih =>
    rw [List.map_cons, putPair, putPair]
    split
    next => rfl
    next => rw [List.map_cons, ih]

namespace Table

theorem keys_insert (t : Table α) (key : String) (value : α) :
    (t.insert key value).keys = if key ∈ t.keys then t.keys else t.keys ++ [key] :=
  map_fst_putPair key value t.entries

theorem map_insert (f : α → β) (t : Table α) (key : String) (value : α) :
    (t.insert key value).map f = (t.map f).insert key (f value) := by
  simp only [map, insert, putPair_map_snd]

theorem ofList_append (pairs : List (String × α)) (key : String) (value : α) :
    ofList (pairs ++ [(key, value)]) = (ofList pairs).insert key value := by
  rw [ofList, List.foldl_append]
  rfl

theorem map_ofList (f : α → β) (pairs : List (String × α)) :
    (ofList pairs).map f = ofList (pairs.map fun pair => (pair.1, f pair.2)) := by
  induction pairs using List.reverseRecOn with
  | nil => rfl
  | append_singleton pairs pair ih =>
    rw [ofList_append, map_insert, ih, List.map_append, List.map_singleton, ofList_append]

/-- A table answers as what was registered in it says: under each name with the last value, and with
every name once, in the order in which the names came first or in that of their code points. -/
structure Registers (t : Table α) (past : List (String × α)) : Prop where
  value : ∀ name value, t.get? name = some value ↔
    ∃ before after, past = before ++ (name, value) :: after ∧ name ∉ after.map Prod.fst
  absent : ∀ name, t.get? name = none ↔ name ∉ past.map Prod.fst
  known : ∀ name, t.has name = true ↔ name ∈ past.map Prod.fst
  listed : ∀ name, name ∈ t.keys ↔ name ∈ past.map Prod.fst
  ordered : t.keys.Pairwise fun name later =>
    (past.map Prod.fst).idxOf name < (past.map Prod.fst).idxOf later
  size : t.size = (past.map Prod.fst).toFinset.card
  sorted : t.sortedKeys.Pairwise fun name later =>
    name.toList.map Char.toNat < later.toList.map Char.toNat
  listedSorted : ∀ name, name ∈ t.sortedKeys ↔ name ∈ past.map Prod.fst

variable {past : List (String × α)} {name : String} {value : α}

theorem mem_keys_ofList : name ∈ (ofList past).keys ↔ name ∈ past.map Prod.fst := by
  induction past using List.reverseRecOn with
  | nil => rfl
  | append_singleton past pair ih =>
    rw [ofList_append, keys_insert, List.map_append, List.map_singleton, List.mem_append,
      List.mem_singleton, ← ih]
    split
    next present => exact ⟨.inl, fun either => either.elim id fun same => same ▸ present⟩
    next => rw [List.mem_append, List.mem_singleton]

theorem get?_ofList_eq_some_iff : (ofList past).get? name = some value ↔
    ∃ before after, past = before ++ (name, value) :: after ∧ name ∉ after.map Prod.fst := by
  rw [get?_ofList, List.lookup_eq_some_iff]
  constructor
  · rintro ⟨after, before, split, other⟩
    refine ⟨before.reverse, after.reverse, ?_, ?_⟩
    · rw [← List.reverse_reverse past, split]
      simp
    · intro again
      obtain ⟨pair, later, same⟩ := List.mem_map.mp again
      exact bne_iff_ne.mp (other pair (List.mem_reverse.mp later)) same.symm
  · rintro ⟨before, after, rfl, last⟩
    refine ⟨after.reverse, before.reverse, by simp, ?_⟩
    intro pair later
    exact bne_iff_ne.mpr fun same =>
      last (same ▸ List.mem_map_of_mem (List.mem_reverse.mp later))

/-- The keys of a table made from a list stand in the order in which they came first. -/
theorem keys_ofList_ordered (past : List (String × α)) :
    (ofList past).keys.Pairwise fun name later =>
      (past.map Prod.fst).idxOf name < (past.map Prod.fst).idxOf later := by
  induction past using List.reverseRecOn with
  | nil => exact List.Pairwise.nil
  | append_singleton past pair ih =>
    rw [ofList_append, keys_insert, List.map_append, List.map_singleton]
    have still : (ofList past).keys.Pairwise fun name later =>
        (past.map Prod.fst ++ [pair.1]).idxOf name <
          (past.map Prod.fst ++ [pair.1]).idxOf later := by
      refine ih.imp_of_mem fun {name later} hn hl before => ?_
      rwa [List.idxOf_append_of_mem (mem_keys_ofList.mp hn),
        List.idxOf_append_of_mem (mem_keys_ofList.mp hl)]
    split
    next => exact still
    next new =>
      refine List.pairwise_append.mpr ⟨still, List.pairwise_singleton _ _, ?_⟩
      intro name hn later hl
      have old : name ∈ past.map Prod.fst := mem_keys_ofList.mp hn
      have unseen : pair.1 ∉ past.map Prod.fst := fun seen => new (mem_keys_ofList.mpr seen)
      rw [List.mem_singleton.mp hl, List.idxOf_append_of_mem old,
        List.idxOf_append_of_notMem unseen]
      exact Nat.lt_add_right _ (List.idxOf_lt_length_of_mem old)

theorem sortedKeys_perm (t : Table α) : t.sortedKeys.Perm t.keys := List.mergeSort_perm ..

theorem sortedKeys_pairwise (t : Table α) : t.sortedKeys.Pairwise fun name later =>
    name.toList.map Char.toNat < later.toList.map Char.toNat := by
  have ascending : t.sortedKeys.Pairwise fun name later => decide (name ≤ later) = true := by
    apply List.pairwise_mergeSort
    · intro a b c
      simpa only [decide_eq_true_eq] using String.le_trans
    · intro a b
      simpa only [Bool.or_eq_true, decide_eq_true_eq] using String.le_total a b
  have distinct : t.sortedKeys.Nodup := t.sortedKeys_perm.nodup_iff.mpr t.keys_nodup
  refine (ascending.and distinct).imp fun {name later} ⟨le, ne⟩ => ?_
  have less : name < later := by
    rw [← String.not_le]
    exact fun ge => ne (String.le_antisymm (of_decide_eq_true le) ge)
  exact List.map_lt (fun _ _ h => h) (String.lt_iff.mp less)

/-- A table that is filled from a list answers as the list says. -/
theorem ofList_registers (past : List (String × α)) : (ofList past).Registers past := by
  constructor
  case value => exact fun _ _ => get?_ofList_eq_some_iff
  case absent => exact fun _ => get?_eq_none_iff.trans (not_congr mem_keys_ofList)
  case known => exact fun _ => has_iff.trans mem_keys_ofList
  case listed => exact fun _ => mem_keys_ofList
  case ordered => exact keys_ofList_ordered past
  case size =>
    have same : (ofList past).keys.toFinset = (past.map Prod.fst).toFinset := by
      ext name
      rw [List.mem_toFinset, List.mem_toFinset, mem_keys_ofList]
    have counted : (ofList past).keys.toFinset.card = (ofList past).keys.length :=
      List.toFinset_card_of_nodup (ofList past).keys_nodup
    rw [← same, counted, keys, List.length_map, size]
  case sorted => exact sortedKeys_pairwise _
  case listedSorted => exact fun _ => ((ofList past).sortedKeys_perm.mem_iff).trans mem_keys_ofList

end Table

end EmulatedShell

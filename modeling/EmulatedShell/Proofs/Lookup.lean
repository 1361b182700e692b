import EmulatedShell.Table
import Mathlib.Data.List.Nodup

namespace EmulatedShell

variable {α β : Type}

theorem lookup_pair_cons (k : String) (pair : String × α) (rest : List (String × α)) :
    (pair :: rest).lookup k = if k = pair.1 then some pair.2 else rest.lookup k := by
  obtain ⟨key, value⟩ := pair
  rw [List.lookup_cons]
  by_cases h : k = key
  · simp [h]
  · have hb : (k == key) = false := by simpa using h
    simp [hb, h]

theorem lookup_putPair (key k : String) (value : α) (pairs : List (String × α)) :
    (putPair key value pairs).lookup k = if k = key then some value else pairs.lookup k := by
  induction pairs with
  | nil => simp [putPair, lookup_pair_cons]
  | cons pair rest ih =>
    unfold putPair
    split
    next hp => by_cases h : k = key <;> simp [lookup_pair_cons, h, hp]
    next hp =>
      rw [lookup_pair_cons, lookup_pair_cons, ih]
      by_cases h : k = pair.1
      · simp [h, hp]
      · simp [h]

theorem lookup_map_snd (f : α → β) (k : String) (pairs : List (String × α)) :
    (pairs.map fun pair => (pair.1, f pair.2)).lookup k = (pairs.lookup k).map f := by
  induction pairs with
  | nil => rfl
  | cons pair rest ih =>
    rw [List.map_cons, lookup_pair_cons, lookup_pair_cons, ih]
    by_cases h : k = pair.1 <;> simp [h]

theorem lookup_eq_none_iff_not_mem {k : String} {pairs : List (String × α)} :
    pairs.lookup k = none ↔ k ∉ pairs.map Prod.fst := by
  rw [List.lookup_eq_none_iff]
  constructor
  · intro absent present
    obtain ⟨pair, hm, rfl⟩ := List.mem_map.mp present
    exact bne_iff_ne.mp (absent pair hm) rfl
  · intro absent pair hm
    exact bne_iff_ne.mpr fun he => absent (he ▸ List.mem_map_of_mem hm)

theorem lookup_isSome_iff {k : String} {pairs : List (String × α)} :
    (pairs.lookup k).isSome = true ↔ k ∈ pairs.map Prod.fst := by
  rw [Option.isSome_iff_ne_none, ne_eq, lookup_eq_none_iff_not_mem, not_not]

namespace Table

theorem get?_eq_none_iff {t : Table α} {k : String} : t.get? k = none ↔ k ∉ t.keys :=
  lookup_eq_none_iff_not_mem

theorem has_iff {t : Table α} {k : String} : t.has k = true ↔ k ∈ t.keys := lookup_isSome_iff

/-- A value stands at one place among the pairs of a table, and its key at no other. -/
theorem entries_of_get? {t : Table α} {k : String} {value : α} (h : t.get? k = some value) :
    ∃ before after, t.entries = before ++ (k, value) :: after ∧
      ∀ pair ∈ before ++ after, pair.1 ≠ k := by
  obtain ⟨before, after, he, _⟩ := List.lookup_eq_some_iff.mp h
  refine ⟨before, after, he, ?_⟩
  have distinct := t.keys_nodup
  rw [he, List.map_append, List.map_cons, List.nodup_middle, List.nodup_cons,
    ← List.map_append] at distinct
  intro pair hm hk
  exact distinct.1 (List.mem_map.mpr ⟨pair, hm, hk⟩)

theorem get?_of_mem {t : Table α} {k : String} {value : α} (h : (k, value) ∈ t.entries) :
    t.get? k = some value := by
  obtain ⟨before, after, he⟩ := List.append_of_mem h
  refine List.lookup_eq_some_iff.mpr ⟨before, after, he, fun pair hp => ?_⟩
  have distinct := t.keys_nodup
  rw [he, List.map_append, List.map_cons, List.nodup_middle, List.nodup_cons] at distinct
  exact bne_iff_ne.mpr fun same => distinct.1 (by simp [same, List.mem_map_of_mem hp])

theorem get?_insert (t : Table α) (key k : String) (value : α) :
    (t.insert key value).get? k = if k = key then some value else t.get? k :=
  lookup_putPair key k value t.entries

theorem get?_map (f : α → β) (t : Table α) (k : String) :
    (t.map f).get? k = (t.get? k).map f :=
  lookup_map_snd f k t.entries

theorem get?_foldl_insert (pairs : List (String × α)) (t : Table α) (k : String) :
    (pairs.foldl (fun t pair => t.insert pair.1 pair.2) t).get? k =
      (pairs.reverse.lookup k).or (t.get? k) := by
  induction pairs generalizing t with
  | nil => rfl
  | cons pair rest ih =>
    rw [List.foldl_cons, ih, get?_insert, List.reverse_cons, List.lookup_append]
    cases rest.reverse.lookup k with
    | some value => rfl
    | none => by_cases h : k = pair.1 <;> simp [lookup_pair_cons, h]

/-- A table made from a list has the last value of each key. -/
theorem get?_ofList (pairs : List (String × α)) (k : String) :
    (ofList pairs).get? k = pairs.reverse.lookup k := by
  rw [ofList, get?_foldl_insert]
  exact Option.or_none

theorem mem_of_get?_ofList {pairs : List (String × α)} {k : String} {value : α}
    (h : (ofList pairs).get? k = some value) : (k, value) ∈ pairs := by
  rw [get?_ofList] at h
  obtain ⟨before, after, he, _⟩ := List.lookup_eq_some_iff.mp h
  have hm : (k, value) ∈ pairs.reverse := by simp [he]
  exact List.mem_reverse.mp hm

/-- A table made from a list has no values but those of the list. -/
theorem mem_of_mem_values_ofList {pairs : List (String × α)} {value : α}
    (h : value ∈ (ofList pairs).values) : ∃ k, (k, value) ∈ pairs := by
  obtain ⟨⟨k, found⟩, listed, rfl⟩ := List.mem_map.mp h
  exact ⟨k, mem_of_get?_ofList (get?_of_mem listed)⟩

end Table

end EmulatedShell

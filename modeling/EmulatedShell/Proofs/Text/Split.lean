import EmulatedShell.Text.Split
import Mathlib.Algebra.GroupWithZero.Nat
import Mathlib.Data.List.Basic
import Mathlib.Data.List.TakeWhile

namespace EmulatedShell

variable {sep : Char} {text piece : String} {texts : List String}

theorem takeWhile_append_stop {front back : List Char} {test : Char → Bool}
    (pass : ∀ c ∈ front, test c = true) (stop : ∀ c ∈ back.head?, test c = false) :
    (front ++ back).takeWhile test = front := by
  rw [List.takeWhile_append_of_pos pass]
  cases back with
  | nil => simp
  | cons c rest => simp [stop c rfl]

theorem dropWhile_append_stop {front back : List Char} {test : Char → Bool}
    (pass : ∀ c ∈ front, test c = true) (stop : ∀ c ∈ back.head?, test c = false) :
    (front ++ back).dropWhile test = back := by
  rw [List.dropWhile_append_of_pos pass]
  cases back with
  | nil => rfl
  | cons c rest => simp [stop c rfl]

theorem splitChars_eq_splitOn (sep : Char) (text : List Char) :
    splitChars sep text = text.splitOn sep := by
  induction text with
  | nil => rfl
  | cons c rest ih =>
    rw [List.splitOn_cons_eq_if_modifyHead, ← ih, splitChars]
    by_cases h : c = sep
    · simp [h]
    · have hb : (c == sep) = false := by simpa using h
      obtain ⟨piece, pieces, hs⟩ := List.exists_cons_of_ne_nil (splitChars_ne_nil sep rest)
      simp [h, hb, hs]

theorem split_eq_map_splitOn (sep : Char) (text : String) :
    split sep text = (text.toList.splitOn sep).map String.ofList := by
  rw [split, splitChars_eq_splitOn]

theorem joinWith_eq_intercalate (sep : String) (texts : List String) :
    joinWith sep texts = sep.intercalate texts := by
  induction texts with
  | nil => exact String.intercalate_nil.symm
  | cons text rest ih =>
    cases rest with
    | nil => exact String.intercalate_singleton.symm
    | cons next rest => rw [joinWith, ih, String.intercalate_cons_cons]

theorem joinWith_append {sep : String} {front back : List String} (hf : front ≠ [])
    (hb : back ≠ []) :
    joinWith sep (front ++ back) = joinWith sep front ++ sep ++ joinWith sep back := by
  simp only [joinWith_eq_intercalate]
  exact String.intercalate_append_of_ne_nil hf hb

theorem length_joinWith {sep : String} {texts : List String} (nonempty : texts ≠ []) :
    (joinWith sep texts).length + sep.length =
      (texts.map fun text => text.length + sep.length).sum := by
  induction texts with
  | nil => exact absurd rfl nonempty
  | cons text rest ih =>
    cases rest with
    | nil => simp [joinWith]
    | cons next rest =>
      have later := ih (List.cons_ne_nil next rest)
      rw [List.map_cons, List.sum_cons, ← later, joinWith, String.length_append,
        String.length_append]
      omega

/-- The pieces of a text make it up again. -/
theorem joinWith_split (sep : Char) (text : String) :
    joinWith (String.singleton sep) (split sep text) = text := by
  apply String.toList_inj.mp
  rw [joinWith_eq_intercalate, String.toList_intercalate, split_eq_map_splitOn, List.map_map]
  have same : String.toList ∘ String.ofList = id := funext fun _ => String.toList_ofList
  rw [same, List.map_id, String.toList_singleton, List.intercalate_splitOn]

theorem split_of_not_mem (h : sep ∉ text.toList) : split sep text = [text] := by
  rw [split_eq_map_splitOn, List.splitOn_eq_singleton h, List.map_singleton, String.ofList_toList]

theorem split_append (sep : Char) (front back : String) :
    split sep (front ++ String.singleton sep ++ back) = split sep front ++ split sep back := by
  have cut : (front ++ String.singleton sep ++ back).toList =
      front.toList ++ sep :: back.toList := by simp
  rw [split_eq_map_splitOn, cut, List.splitOn_append_cons_self, List.map_append,
    ← split_eq_map_splitOn, ← split_eq_map_splitOn]

/-- What texts make up has their pieces. -/
theorem split_joinWith_eq_flatMap (nonempty : texts ≠ []) :
    split sep (joinWith (String.singleton sep) texts) = texts.flatMap (split sep) := by
  induction texts with
  | nil => exact absurd rfl nonempty
  | cons text rest ih =>
    cases rest with
    | nil => simp [joinWith]
    | cons next rest =>
      rw [joinWith, split_append, ih (List.cons_ne_nil next rest)]
      rfl

theorem flatMap_split_of_not_mem (free : ∀ text ∈ texts, sep ∉ text.toList) :
    texts.flatMap (split sep) = texts := by
  induction texts with
  | nil => rfl
  | cons text rest ih =>
    rw [List.flatMap_cons, split_of_not_mem (free text List.mem_cons_self),
      ih fun other ho => free other (List.mem_cons_of_mem _ ho), List.singleton_append]

/-- Texts that lack the separator are the pieces of what they make up. -/
theorem split_joinWith (nonempty : texts ≠ []) (free : ∀ text ∈ texts, sep ∉ text.toList) :
    split sep (joinWith (String.singleton sep) texts) = texts := by
  rw [split_joinWith_eq_flatMap nonempty, flatMap_split_of_not_mem free]

theorem not_mem_of_mem_splitChars {text piece : List Char} (h : piece ∈ splitChars sep text) :
    sep ∉ piece := by
  induction text generalizing piece with
  | nil => simp_all [splitChars]
  | cons c rest ih =>
    unfold splitChars at h
    split at h
    next =>
      rcases List.mem_cons.mp h with rfl | later
      · exact List.not_mem_nil
      · exact ih later
    next hc =>
      obtain ⟨first, pieces, hs⟩ := List.exists_cons_of_ne_nil (splitChars_ne_nil sep rest)
      rw [hs] at h ih
      rcases List.mem_cons.mp h with rfl | later
      · have hf : sep ∉ first := ih List.mem_cons_self
        simp [hf, Ne.symm hc]
      · exact ih (List.mem_cons_of_mem _ later)

theorem not_mem_of_mem_split (h : piece ∈ split sep text) : sep ∉ piece.toList := by
  obtain ⟨chars, hc, rfl⟩ := List.mem_map.mp h
  rw [String.toList_ofList]
  exact not_mem_of_mem_splitChars hc

end EmulatedShell

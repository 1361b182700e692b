import EmulatedShell.Text.Trim
import Mathlib.Data.List.DropRight

namespace EmulatedShell

theorem trimChars_prefix (text : List Char) : trimChars text <+: dropStart isBlank text :=
  List.rdropWhile_prefix isBlank (dropStart isBlank text)

theorem trimChars_head_not_blank {text : List Char} (h : 0 < (trimChars text).length) :
    isBlank (trimChars text)[0] = false := by
  have hp := trimChars_prefix text
  have hl : 0 < (dropStart isBlank text).length := Nat.lt_of_lt_of_le h hp.length_le
  have hne : dropStart isBlank text ≠ [] := List.ne_nil_of_length_pos hl
  rw [hp.getElem h, ← List.head_eq_getElem hne]
  exact List.head_dropWhile_not isBlank hne

theorem dropStart_trimChars (text : List Char) :
    dropStart isBlank (trimChars text) = trimChars text := by
  apply List.dropWhile_eq_self_iff.mpr
  intro h
  simp [trimChars_head_not_blank h]

theorem dropEnd_trimChars (text : List Char) :
    dropEnd isBlank (trimChars text) = trimChars text :=
  List.rdropWhile_idempotent isBlank (dropStart isBlank text)

/-- Nothing is left to trim in a trimmed text. -/
theorem trimChars_trimChars (text : List Char) : trimChars (trimChars text) = trimChars text := by
  change dropEnd isBlank (dropStart isBlank (trimChars text)) = trimChars text
  rw [dropStart_trimChars, dropEnd_trimChars]

theorem not_blank_of_head_trimChars {text : List Char} {c : Char}
    (h : (trimChars text).head? = some c) : isBlank c = false := by
  obtain ⟨rest, hr⟩ := List.head?_eq_some_iff.mp h
  have hl : 0 < (trimChars text).length := by simp [hr]
  have first := trimChars_head_not_blank hl
  simpa [hr] using first

theorem not_blank_of_getLast_trimChars {text : List Char} {c : Char}
    (h : (trimChars text).getLast? = some c) : isBlank c = false := by
  obtain ⟨ne, rfl⟩ := List.mem_getLast?_eq_getLast h
  exact Bool.eq_false_iff.mpr (List.rdropWhile_last_not isBlank (dropStart isBlank text) ne)

/-- A text that neither starts nor ends with a blank is trimmed. -/
theorem trimChars_eq_self {text : List Char} (first : ∀ c ∈ text.head?, isBlank c = false)
    (last : ∀ c ∈ text.getLast?, isBlank c = false) : trimChars text = text := by
  have start : dropStart isBlank text = text := by
    apply List.dropWhile_eq_self_iff.mpr
    intro hl
    have hh : text.head? = some text[0] := List.head?_eq_getElem? ▸ List.getElem?_eq_getElem hl
    simp [first _ hh]
  rw [trimChars, start]
  apply List.rdropWhile_eq_self_iff.mpr
  intro ne
  simp [last _ (List.getLast?_eq_some_getLast ne)]

theorem trim_toList_sublist (text : String) : (trim text).toList.Sublist text.toList := by
  rw [trim, String.toList_ofList]
  have hp := trimChars_prefix text.toList
  exact hp.sublist.trans (List.dropWhile_sublist isBlank)

theorem trim_trim (text : String) : trim (trim text) = trim text := by
  simp only [trim, String.toList_ofList, trimChars_trimChars]

theorem trim_toList (text : String) : (trim text).toList = trimChars text.toList :=
  String.toList_ofList

theorem trim_eq_self {text : String} (first : ∀ c ∈ text.toList.head?, isBlank c = false)
    (last : ∀ c ∈ text.toList.getLast?, isBlank c = false) : trim text = text := by
  apply String.toList_inj.mp
  rw [trim_toList, trimChars_eq_self first last]

end EmulatedShell

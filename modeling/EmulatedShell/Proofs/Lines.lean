import EmulatedShell.Commands.Reading

namespace EmulatedShell

variable {α : Type} {width : Nat} {gap : String} {lines : List String}

@[simp]
theorem numberLines_length : (numberLines width gap lines).length = lines.length := by
  simp [numberLines]

/-- Lines are numbered from one on. -/
theorem numberLines_getElem? (i : Nat) : (numberLines width gap lines)[i]? =
    lines[i]?.map fun line => padStart width (toString (i + 1)) ++ gap ++ line := by
  simp [numberLines, Function.comp_def]

theorem numberLines_eq_mapIdx : numberLines width gap lines =
    lines.mapIdx fun i line => padStart width (toString (i + 1)) ++ gap ++ line := by
  apply List.ext_getElem?
  intro i
  rw [numberLines_getElem?, List.getElem?_mapIdx]

theorem takeLast_eq (count : Nat) (list : List α) :
    takeLast count list = list.drop (list.length - min count list.length) := by
  rw [takeLast]
  congr 1
  omega

theorem takeLast_zero (list : List α) : takeLast 0 list = [] := by simp [takeLast]

theorem takeLast_length_self (list : List α) : takeLast list.length list = list := by
  simp [takeLast]

end EmulatedShell

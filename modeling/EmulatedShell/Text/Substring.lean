namespace EmulatedShell

/-- A text starts with another one. -/
def beginsWith (start text : String) : Bool := start.toList.isPrefixOf text.toList

/-- A text ends with another one. -/
def finishesWith (ending text : String) : Bool := ending.toList.isSuffixOf text.toList

/-- The needle stands somewhere in the text. -/
def occursIn (needle : List Char) : List Char → Bool
  | [] => needle.isEmpty
  | c :: rest => needle.isPrefixOf (c :: rest) || occursIn needle rest

/-- The needle stands somewhere in the text. -/
def contains (needle text : String) : Bool := occursIn needle.toList text.toList

/-- A text without a number of characters at its end. -/
def dropLast (count : Nat) (text : String) : String :=
  String.ofList (text.toList.take (text.toList.length - count))

theorem occursIn_iff {needle text : List Char} :
    occursIn needle text = true ↔ ∃ before after, text = before ++ needle ++ after := by
  induction text with
  | nil =>
    simp only [occursIn, List.isEmpty_iff]
    constructor
    · rintro rfl
      exact ⟨[], [], rfl⟩
    · rintro ⟨before, after, h⟩
      simp_all
  | cons c rest ih =>
    simp only [occursIn, Bool.or_eq_true, List.isPrefixOf_iff_prefix, ih]
    constructor
    · rintro (⟨after, h⟩ | ⟨before, after, h⟩)
      · exact ⟨[], after, by simpa using h.symm⟩
      · exact ⟨c :: before, after, by simp [h]⟩
    · rintro ⟨before, after, h⟩
      cases before with
      | nil => exact .inl ⟨after, by simpa using h.symm⟩
      | cons d before =>
        simp only [List.cons_append, List.cons.injEq] at h
        exact .inr ⟨before, after, h.2⟩

theorem contains_iff_infix {needle text : String} :
    contains needle text = true ↔ needle.toList <:+: text.toList := by
  rw [contains, occursIn_iff]
  constructor
  · rintro ⟨before, after, h⟩
    exact ⟨before, after, h.symm⟩
  · rintro ⟨before, after, h⟩
    exact ⟨before, after, h.symm⟩

end EmulatedShell

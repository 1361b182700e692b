import EmulatedShell.Proofs.Text.Trimming
import EmulatedShell.Proofs.Unicode.Blank
import EmulatedShell.Text.Lowercase

namespace EmulatedShell

/-- Nothing beyond a blank counts among the neighbours of a letter. -/
theorem meetsCased_append_blank {b : Char} (hb : isBlank b = true) (near far : List Char) :
    meetsCased (near ++ b :: far) = meetsCased near := by
  induction near with
  | nil => simp [meetsCased, isCaseIgnorable_of_blank hb, isCased_of_blank hb]
  | cons c rest ih =>
    by_cases hc : isCaseIgnorable c = true
    · simpa [meetsCased, hc] using ih
    · simp [meetsCased, hc]

theorem lowerBetween_of_blank {b : Char} (hb : isBlank b = true) (before after : List Char) :
    lowerBetween before b after = [b] := by
  have hs : b ≠ 'Σ' := by
    rintro rfl
    exact absurd hb (by decide)
  have hi : b ≠ 'İ' := by
    rintro rfl
    exact absurd hb (by decide)
  rw [lowerBetween, if_neg hs, if_neg hi, lowerChar_of_blank hb]

theorem not_blank_of_mem_lowerBetween {c d : Char} {before after : List Char}
    (hc : isBlank c = false) (hd : d ∈ lowerBetween before c after) : isBlank d = false := by
  unfold lowerBetween at hd
  split at hd
  next =>
    rcases List.mem_singleton.mp hd with rfl
    split <;> decide
  next =>
    split at hd
    next =>
      simp only [List.mem_cons, List.not_mem_nil, or_false] at hd
      rcases hd with rfl | rfl <;> decide
    next =>
      rcases List.mem_singleton.mp hd with rfl
      rw [isBlank_lowerChar, hc]

theorem mem_lowerBetween_of_blank {b c : Char} {before after : List Char} (hb : isBlank b = true) :
    b ∈ lowerBetween before c after ↔ b = c := by
  by_cases hc : isBlank c = true
  · rw [lowerBetween_of_blank hc, List.mem_singleton]
  · rw [Bool.not_eq_true] at hc
    constructor
    · intro hm
      rw [not_blank_of_mem_lowerBetween hc hm] at hb
      cases hb
    · rintro rfl
      rw [hc] at hb
      cases hb

theorem mem_lowerAfter_of_blank {b : Char} {before text : List Char} (hb : isBlank b = true) :
    b ∈ lowerAfter before text ↔ b ∈ text := by
  induction text generalizing before with
  | nil => rfl
  | cons c rest ih =>
    rw [lowerAfter, List.mem_append, mem_lowerBetween_of_blank hb, ih, List.mem_cons]

theorem lowerBetween_length (before : List Char) (c : Char) (after : List Char) :
    (lowerBetween before c after).length = if c = 'İ' then 2 else 1 := by
  unfold lowerBetween
  by_cases hs : c = 'Σ'
  · subst hs
    rfl
  · rw [if_neg hs]
    split <;> rfl

theorem lowerBetween_ne_nil (before : List Char) (c : Char) (after : List Char) :
    lowerBetween before c after ≠ [] := by
  have hl := lowerBetween_length before c after
  intro he
  rw [he] at hl
  split at hl <;> simp at hl

theorem lowerBetween_of_meetsCased {before other after more : List Char} (c : Char)
    (hb : meetsCased before = meetsCased other) (ha : meetsCased after = meetsCased more) :
    lowerBetween before c after = lowerBetween other c more := by
  rw [lowerBetween, lowerBetween, hb, ha]

/-- What stands before a blank has no say in the text after it. -/
theorem lowerAfter_append_blank {b : Char} (hb : isBlank b = true) (near far text : List Char) :
    lowerAfter (near ++ b :: far) text = lowerAfter near text := by
  induction text generalizing near with
  | nil => rfl
  | cons c rest ih =>
    have hm : meetsCased (near ++ b :: far) = meetsCased near := meetsCased_append_blank hb near far
    rw [lowerAfter, lowerAfter, lowerBetween_of_meetsCased c hm rfl]
    exact congrArg _ (ih (c :: near))

theorem lowerAfter_blank_cons {b : Char} (hb : isBlank b = true) (before text : List Char) :
    lowerAfter before (b :: text) = b :: lowerAfter [] text := by
  rw [lowerAfter, lowerBetween_of_blank hb, List.singleton_append]
  exact congrArg _ (lowerAfter_append_blank hb [] before text)

/-- What stands after a blank has no say in the text before it. -/
theorem lowerAfter_concat_blank {b : Char} (hb : isBlank b = true) (before text : List Char) :
    lowerAfter before (text ++ [b]) = lowerAfter before text ++ [b] := by
  induction text generalizing before with
  | nil => exact lowerAfter_blank_cons hb before []
  | cons c rest ih =>
    have hm : meetsCased (rest ++ [b]) = meetsCased rest := by
      simpa using meetsCased_append_blank hb rest []
    rw [List.cons_append, lowerAfter, lowerAfter, lowerBetween_of_meetsCased c rfl hm, ih,
      List.append_assoc]

/-- The small form of a text starts with that of its front, and only the front tells how long that
is. -/
theorem lowerAfter_append (before front back : List Char) : ∃ lowered,
    lowered.length = front.length + front.count 'İ' ∧
      lowerAfter before (front ++ back) = lowered ++ lowerAfter (front.reverse ++ before) back := by
  induction front generalizing before with
  | nil => exact ⟨[], rfl, rfl⟩
  | cons c rest ih =>
    obtain ⟨lowered, hl, he⟩ := ih (c :: before)
    refine ⟨lowerBetween before c (rest ++ back) ++ lowered, ?_, ?_⟩
    · rw [List.length_append, hl, lowerBetween_length, List.length_cons, List.count_cons]
      by_cases dotted : c = 'İ'
      · simp [dotted]
        omega
      · simp [dotted]
        omega
    · rw [List.cons_append, lowerAfter, he]
      simp

theorem lowerAfter_concat (before text : List Char) (c : Char) :
    ∃ front, lowerAfter before (text ++ [c]) =
      front ++ lowerBetween (text.reverse ++ before) c [] := by
  obtain ⟨front, _, he⟩ := lowerAfter_append before text [c]
  exact ⟨front, by rw [he, lowerAfter, lowerAfter, List.append_nil]⟩

theorem dropStart_lowerAfter (text : List Char) :
    dropStart isBlank (lowerAfter [] text) = lowerAfter [] (dropStart isBlank text) := by
  induction text with
  | nil => rfl
  | cons c rest ih =>
    by_cases hc : isBlank c = true
    · rw [lowerAfter_blank_cons hc]
      simpa [dropStart, hc] using ih
    · have hn : isBlank c = false := by simpa using hc
      have hk : dropStart isBlank (c :: rest) = c :: rest := by simp [dropStart, hn]
      obtain ⟨d, more, hd⟩ := List.exists_cons_of_ne_nil (lowerBetween_ne_nil [] c rest)
      have hm : d ∈ lowerBetween [] c rest := by simp [hd]
      have hb : isBlank d = false := not_blank_of_mem_lowerBetween hn hm
      rw [hk, lowerAfter, hd]
      simp [dropStart, hb]

theorem dropEnd_lowerAfter (text : List Char) :
    dropEnd isBlank (lowerAfter [] text) = lowerAfter [] (dropEnd isBlank text) := by
  induction text using List.reverseRecOn with
  | nil => rfl
  | append_singleton rest c ih =>
    change List.rdropWhile isBlank _ = lowerAfter [] (List.rdropWhile isBlank _)
    by_cases hc : isBlank c = true
    · rw [lowerAfter_concat_blank hc, List.rdropWhile_concat, List.rdropWhile_concat, if_pos hc,
        if_pos hc]
      exact ih
    · have hn : isBlank c = false := by simpa using hc
      obtain ⟨front, hf⟩ := lowerAfter_concat [] rest c
      obtain ⟨more, d, hd⟩ :=
        (List.eq_nil_or_concat (lowerBetween (rest.reverse ++ []) c [])).resolve_left
          (lowerBetween_ne_nil _ _ _)
      have hm : d ∈ lowerBetween (rest.reverse ++ []) c [] := by
        simp only [hd, List.concat_eq_append, List.mem_concat_self]
      have hb : isBlank d = false := not_blank_of_mem_lowerBetween hn hm
      rw [List.rdropWhile_concat, if_neg hc, hf, hd, List.concat_eq_append, ← List.append_assoc,
        List.rdropWhile_concat, if_neg (by simp [hb])]

/-- It does not matter whether the blanks go first or the capitals. -/
theorem trim_lowercase (text : String) : trim (lowercase text) = lowercase (trim text) := by
  simp only [trim, lowercase, trimChars, String.toList_ofList, dropStart_lowerAfter,
    dropEnd_lowerAfter]

theorem lowerAfter_length (before text : List Char) :
    (lowerAfter before text).length = text.length + text.count 'İ' := by
  obtain ⟨lowered, hl, he⟩ := lowerAfter_append before text []
  rw [List.append_nil] at he
  rw [he, lowerAfter, List.append_nil, hl]

/-- Of all characters only the capital i with a dot becomes longer in small letters. -/
theorem lowercase_length (text : String) :
    (lowercase text).length = text.length + text.toList.count 'İ' := by
  rw [lowercase, String.length_ofList, lowerAfter_length, String.length_toList]

end EmulatedShell

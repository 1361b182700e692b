import EmulatedShell.Unicode.Blank
import EmulatedShell.Unicode.CaseContext
import EmulatedShell.Unicode.LowerTable
import Mathlib.Data.List.Basic

namespace EmulatedShell

theorem exists_of_inRanges {ranges : List (Nat × Nat)} {n : Nat} (h : inRanges ranges n = true) :
    ∃ range ∈ ranges, range.1 ≤ n ∧ n ≤ range.2 := by
  induction ranges with
  | nil => simp [inRanges] at h
  | cons range rest ih =>
    unfold inRanges at h
    split at h
    next => simp at h
    next hfirst =>
      split at h
      next hlast => exact ⟨range, List.mem_cons_self, by omega, hlast⟩
      next =>
        obtain ⟨other, hm, hn⟩ := ih h
        exact ⟨other, List.mem_cons_of_mem _ hm, hn⟩

/-- What is checked for every code point of some ranges holds of every number in them. -/
theorem of_inRanges {ranges : List (Nat × Nat)} {test : Nat → Bool} {n : Nat}
    (checked : (ranges.all fun range =>
      (List.range' range.1 (range.2 + 1 - range.1)).all test) = true)
    (h : inRanges ranges n = true) : test n = true := by
  obtain ⟨range, hm, hfirst, hlast⟩ := exists_of_inRanges h
  have hall := List.all_eq_true.mp checked range hm
  exact List.all_eq_true.mp hall n (List.mem_range'_1.mpr ⟨hfirst, by omega⟩)

theorem CapitalRun.holds_iff {run : CapitalRun} {n : Nat} : run.holds n = true ↔
    run.first ≤ n ∧ n ≤ run.last ∧ (n - run.first) % run.step = 0 := by
  simp [holds, and_assoc]

/-- The small letter of a code point is itself, or lies one run of capitals away. -/
theorem lowerCodeIn_cases (runs : List CapitalRun) (n : Nat) :
    lowerCodeIn runs n = n ∨ ∃ run ∈ runs, run.holds n = true ∧
      lowerCodeIn runs n = (Int.ofNat n + run.shift).toNat := by
  induction runs with
  | nil => exact .inl rfl
  | cons run rest ih =>
    unfold lowerCodeIn
    split
    next => exact .inl rfl
    next =>
      split
      next held => exact .inr ⟨run, List.mem_cons_self, held, rfl⟩
      next =>
        rcases ih with same | ⟨other, hm, hother⟩
        · exact .inl same
        · exact .inr ⟨other, List.mem_cons_of_mem _ hm, hother⟩

/-- A run of capitals whose small letters lie all before or all after a range. -/
def CapitalRun.avoids (run : CapitalRun) (range : Nat × Nat) : Bool :=
  decide ((range.2 : Int) < run.first + run.shift) ||
    decide ((run.last : Int) + run.shift < range.1)

/-- Characters are told apart by numbers below the surrogates or above them. -/
theorem capitalRuns_valid :
    (capitalRuns.all fun run => decide (0 ≤ run.first + run.shift) &&
      (decide (run.last + run.shift < 0xd800) ||
        decide (0xdfff < run.first + run.shift) && decide (run.last + run.shift < 0x110000))) =
      true := by
  decide

theorem lowerCode_cases (n : Nat) : lowerCode n = n ∨ ∃ run ∈ capitalRuns,
    run.first ≤ n ∧ n ≤ run.last ∧ (lowerCode n : Int) = n + run.shift := by
  rcases lowerCodeIn_cases capitalRuns n with same | ⟨run, hm, held, moved⟩
  · exact .inl same
  · have valid := List.all_eq_true.mp capitalRuns_valid run hm
    simp only [Bool.and_eq_true, decide_eq_true_eq] at valid
    obtain ⟨hfirst, hlast, _⟩ := CapitalRun.holds_iff.mp held
    have hl : lowerCode n = (Int.ofNat n + run.shift).toNat := moved
    have hn : Int.ofNat n = (n : Int) := rfl
    exact .inr ⟨run, hm, hfirst, hlast, by omega⟩

theorem capitalRuns_avoid_blanks :
    (capitalRuns.all fun run => blankRanges.all run.avoids) = true := by
  decide

theorem blankRanges_keep_code :
    (blankRanges.all fun range =>
      (List.range' range.1 (range.2 + 1 - range.1)).all fun n => lowerCode n == n) = true := by
  decide

theorem blankRanges_caseless :
    (blankRanges.all fun range =>
      (List.range' range.1 (range.2 + 1 - range.1)).all fun n =>
        !inRanges caseIgnorableRanges n && !inRanges casedRanges n) = true := by
  decide +kernel

theorem lowerCode_of_blank {n : Nat} (h : inRanges blankRanges n = true) : lowerCode n = n := by
  have hc := of_inRanges blankRanges_keep_code h
  simpa using hc

/-- In a range without small letters of capitals, a small letter is its own capital. -/
theorem lowerCode_eq_self_of_avoids {range : Nat × Nat} {n : Nat}
    (avoided : ∀ run ∈ capitalRuns, run.avoids range = true) (low : range.1 ≤ lowerCode n)
    (high : lowerCode n ≤ range.2) : lowerCode n = n := by
  rcases lowerCode_cases n with same | ⟨run, hm, hfirst, hlast, moved⟩
  · exact same
  · have apart := avoided run hm
    simp only [CapitalRun.avoids, Bool.or_eq_true, decide_eq_true_eq] at apart
    omega

theorem blank_of_lowerCode {n : Nat} (h : inRanges blankRanges (lowerCode n) = true) :
    inRanges blankRanges n = true := by
  obtain ⟨range, hr, low, high⟩ := exists_of_inRanges h
  have same : lowerCode n = n := by
    apply lowerCode_eq_self_of_avoids _ low high
    intro run hm
    exact List.all_eq_true.mp (List.all_eq_true.mp capitalRuns_avoid_blanks run hm) range hr
  rw [← same]
  exact h

theorem lowerChar_of_blank {c : Char} (h : isBlank c = true) : lowerChar c = c := by
  rw [lowerChar, lowerCode_of_blank h, Char.ofNat_toNat]

theorem isValidChar_lowerCode {n : Nat} (h : n.isValidChar) : (lowerCode n).isValidChar := by
  rcases lowerCode_cases n with same | ⟨run, hm, hfirst, hlast, moved⟩
  · rwa [same]
  · have valid := List.all_eq_true.mp capitalRuns_valid run hm
    simp only [Bool.and_eq_true, Bool.or_eq_true, decide_eq_true_eq] at valid
    rw [Nat.isValidChar]
    omega

@[simp]
theorem toNat_lowerChar (c : Char) : (lowerChar c).toNat = lowerCode c.toNat := by
  have valid : (lowerCode c.toNat).isValidChar := isValidChar_lowerCode c.valid
  rw [lowerChar, Char.ofNat, dif_pos valid]
  rfl

/-- A small letter is a blank only where its capital is, and then both are the same. -/
theorem isBlank_lowerChar (c : Char) : isBlank (lowerChar c) = isBlank c := by
  by_cases hc : isBlank c = true
  · rw [lowerChar_of_blank hc]
  · have hl : isBlank (lowerChar c) ≠ true := by
      intro hl
      rw [isBlank, toNat_lowerChar] at hl
      exact hc (blank_of_lowerCode hl)
    simp only [Bool.not_eq_true] at hc hl
    rw [hl, hc]

theorem isCaseIgnorable_of_blank {c : Char} (h : isBlank c = true) : isCaseIgnorable c = false := by
  have hc := of_inRanges blankRanges_caseless h
  simp only [Bool.and_eq_true, Bool.not_eq_true'] at hc
  exact hc.1

theorem isCased_of_blank {c : Char} (h : isBlank c = true) : isCased c = false := by
  have hc := of_inRanges blankRanges_caseless h
  simp only [Bool.and_eq_true, Bool.not_eq_true'] at hc
  exact hc.2

end EmulatedShell

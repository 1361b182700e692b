import EmulatedShell.Proofs.Unicode.Blank

namespace EmulatedShell

namespace CapitalRun

/-- The code point of the first small letter of a run. -/
def low (run : CapitalRun) : Nat := (run.first + run.shift).toNat

/-- The code point of the last small letter of a run. -/
def high (run : CapitalRun) : Nat := (run.last + run.shift).toNat

/-- The letters of a run lie an even distance apart. -/
def isEven (run : CapitalRun) : Bool := Nat.beq run.step 2 || Nat.beq run.first run.last

/-- No small letter of a run is a capital of another one: they lie before or after the capitals of
that, or alternate with them. -/
def isOff (run other : CapitalRun) : Bool :=
  Nat.blt run.high other.first || Nat.blt other.last run.low ||
    (run.isEven && Nat.beq other.step 2 && Nat.beq ((run.low + other.first) % 2) 1)

theorem not_holds_of_isOff {run other : CapitalRun} {n : Nat} (off : run.isOff other = true)
    (low : run.low ≤ n) (high : n ≤ run.high) (even : run.isEven = true → (n - run.low) % 2 = 0) :
    other.holds n = false := by
  rw [Bool.eq_false_iff, Ne, holds_iff]
  rintro ⟨first, last, step⟩
  simp only [isOff, Bool.or_eq_true, Bool.and_eq_true, Nat.blt_eq, Nat.beq_eq] at off
  rcases off with (before | after) | ⟨⟨alternate, two⟩, odd⟩
  · omega
  · omega
  · have distance := even alternate
    rw [two] at step
    omega

end CapitalRun

theorem capitalRuns_off :
    (capitalRuns.all fun run => capitalRuns.all run.isOff) = true := by
  decide +kernel

theorem lowerCodeIn_of_not_held {runs : List CapitalRun} {n : Nat}
    (free : ∀ run ∈ runs, run.holds n = false) : lowerCodeIn runs n = n := by
  induction runs with
  | nil => rfl
  | cons run rest ih =>
    have later := ih fun other ho => free other (List.mem_cons_of_mem _ ho)
    simp [lowerCodeIn, free run List.mem_cons_self, later]

/-- A small letter has no small letter of its own. -/
theorem lowerCode_lowerCode (n : Nat) : lowerCode (lowerCode n) = lowerCode n := by
  rcases lowerCodeIn_cases capitalRuns n with same | ⟨run, hm, held, moved⟩
  · have kept : lowerCode n = n := same
    rw [kept, kept]
  · have valid := List.all_eq_true.mp capitalRuns_valid run hm
    simp only [Bool.and_eq_true, decide_eq_true_eq] at valid
    obtain ⟨first, last, step⟩ := CapitalRun.holds_iff.mp held
    have code : lowerCode n = ((n : Int) + run.shift).toNat := moved
    have distance : lowerCode n - run.low = n - run.first := by
      rw [code, CapitalRun.low]
      omega
    apply lowerCodeIn_of_not_held
    intro other ho
    have off := List.all_eq_true.mp (List.all_eq_true.mp capitalRuns_off run hm) other ho
    apply CapitalRun.not_holds_of_isOff off
    · rw [CapitalRun.low]
      omega
    · rw [CapitalRun.high]
      omega
    · intro even
      simp only [CapitalRun.isEven, Bool.or_eq_true, Nat.beq_eq] at even
      rw [distance]
      rcases even with two | single
      · rwa [two] at step
      · omega

theorem lowerChar_lowerChar (c : Char) : lowerChar (lowerChar c) = lowerChar c := by
  apply Char.toNat_inj.mp
  rw [toNat_lowerChar, toNat_lowerChar, lowerCode_lowerCode]

end EmulatedShell

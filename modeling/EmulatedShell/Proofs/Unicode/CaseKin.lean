import EmulatedShell.Proofs.Unicode.Blank
import EmulatedShell.Unicode.CaseKin
import Mathlib.Data.List.Nodup

namespace EmulatedShell

/-- A code point is a small letter that is not the only one of its capital. -/
def SharesCapital (n : Nat) : Prop := ∃ letters ∈ caseKinClasses, n ∈ letters

instance (n : Nat) : Decidable (SharesCapital n) :=
  inferInstanceAs (Decidable (∃ letters ∈ caseKinClasses, n ∈ letters))

variable {m n : Nat}

theorem caseKinClasses_disjoint :
    (caseKinClasses.all fun letters => letters.all fun n =>
      caseKinClasses.find? (·.contains n) == some letters) = true := by
  decide

/-- Letters that share a capital are small, and at least two. -/
theorem caseKinClasses_small :
    (caseKinClasses.all fun letters => decide (letters.Nodup ∧ 1 < letters.length) &&
      letters.all fun n => lowerCode n == n && decide n.isValidChar && !inRanges blankRanges n) =
      true := by
  decide +kernel

theorem mem_caseKin_iff :
    n ∈ caseKin m ↔ n = m ∨ ∃ letters ∈ caseKinClasses, m ∈ letters ∧ n ∈ letters := by
  rw [caseKin, List.mem_cons]
  apply or_congr_right
  constructor
  · intro hn
    cases found : caseKinClasses.find? (·.contains m) with
    | none =>
      rw [found] at hn
      exact absurd hn List.not_mem_nil
    | some letters =>
      have hm := List.find?_some found
      rw [found, Option.getD_some] at hn
      exact ⟨letters, List.mem_of_find?_eq_some found, List.contains_iff_mem.mp hm, hn⟩
  · rintro ⟨letters, known, hm, hn⟩
    have found := List.all_eq_true.mp (List.all_eq_true.mp caseKinClasses_disjoint _ known) _ hm
    rw [beq_iff_eq.mp found, Option.getD_some]
    exact hn

theorem mem_caseKin_self (n : Nat) : n ∈ caseKin n := mem_caseKin_iff.mpr (.inl rfl)

theorem mem_caseKin_symm (h : n ∈ caseKin m) : m ∈ caseKin n := by
  rcases mem_caseKin_iff.mp h with rfl | ⟨letters, known, hm, hn⟩
  · exact mem_caseKin_self n
  · exact mem_caseKin_iff.mpr (.inr ⟨letters, known, hn, hm⟩)

theorem mem_caseKin_of_not_shared (alone : ¬SharesCapital m) : n ∈ caseKin m ↔ n = m := by
  rw [mem_caseKin_iff]
  exact or_iff_left fun ⟨letters, known, hm, _⟩ => alone ⟨letters, known, hm⟩

theorem not_shared_of_blank {n : Nat} (blank : inRanges blankRanges n = true) :
    ¬SharesCapital n := by
  rintro ⟨letters, known, hn⟩
  have checked := List.all_eq_true.mp caseKinClasses_small letters known
  rw [Bool.and_eq_true] at checked
  have small := List.all_eq_true.mp checked.2 n hn
  simp [blank] at small

theorem exists_kin_ne (shared : SharesCapital m) (n : Nat) : ∃ k ∈ caseKin m, k ≠ n ∧
    lowerCode k = k ∧ k.isValidChar ∧ inRanges blankRanges k = false := by
  obtain ⟨letters, known, hm⟩ := shared
  have all := List.all_eq_true.mp caseKinClasses_small letters known
  simp only [Bool.and_eq_true, decide_eq_true_eq] at all
  obtain ⟨⟨distinct, several⟩, small⟩ := all
  have other : ∃ k ∈ letters, k ≠ n := by
    cases letters with
    | nil => contradiction
    | cons first rest =>
      cases rest with
      | nil => exact absurd several (Nat.lt_irrefl 1)
      | cons second rest =>
        by_cases same : first = n
        · have apart : second ≠ first :=
            fun he => (List.nodup_cons.mp distinct).1 (he ▸ List.mem_cons_self)
          exact ⟨second, by simp, same ▸ apart⟩
        · exact ⟨first, List.mem_cons_self, same⟩
  obtain ⟨k, hk, differs⟩ := other
  have checked := List.all_eq_true.mp small k hk
  simp only [Bool.and_eq_true, beq_iff_eq, decide_eq_true_eq, Bool.not_eq_true'] at checked
  exact ⟨k, mem_caseKin_iff.mpr (.inr ⟨letters, known, hm, hk⟩), differs, checked.1.1,
    checked.1.2, checked.2⟩

end EmulatedShell

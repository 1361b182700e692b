namespace EmulatedShell

/-- Membership in an ascending list of closed ranges. The scan stops at the first range that
starts beyond the number. -/
def inRanges : List (Nat × Nat) → Nat → Bool
  | [], _ => false
  | (first, last) :: rest, n =>
    if n < first then false else if n ≤ last then true else inRanges rest n

end EmulatedShell

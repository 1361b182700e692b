import EmulatedShell.Commands.Reading
import EmulatedShell.Proofs.Listing

namespace EmulatedShell

/-- Among the particulars of a file the line that shows a size for it. -/
def sizeLine (size : Int) : String :=
  "  Size: " ++ padEnd 10 (toString size) ++ "\tBlocks: " ++
    padEnd 10 (toString (Int.fdiv (size + 4095) 4096 * 8)) ++ " IO Block: 4096   regular file"

variable {i : Invocation} {now : Moment} {name content : String} {size : Int}

/-- A number of blocks can be written wherever the size in bytes can. -/
theorem isWritable_blocks (fits : isWritable size = true) :
    isWritable (Int.fdiv (size + 4095) 4096 * 8) = true := by
  have enough : 16 ≤ Nat.pow 10 digitLimit := by decide +kernel
  have blocks : Int.fdiv (size + 4095) 4096 = (size + 4095) / 4096 :=
    Int.fdiv_eq_ediv_of_nonneg _ (by decide)
  unfold isWritable at fits ⊢
  generalize Nat.pow 10 digitLimit = limit at enough fits ⊢
  rw [decide_eq_true_eq] at fits ⊢
  rw [blocks]
  omega

theorem statLines_of_writable (fits : isWritable (i.sizeOf name content) = true) (now : Moment) :
    ∃ lines, statLines i now name content = .ok lines ∧
      lines[1]? = some (sizeLine (i.sizeOf name content)) := by
  rw [statLines, written_of_writable fits, written_of_writable (isWritable_blocks fits)]
  exact ⟨_, rfl, rfl⟩

theorem statLines_of_not_writable (long : isWritable (i.sizeOf name content) = false)
    (now : Moment) : statLines i now name content = .error .tooManyToWrite := by
  rw [statLines, written_of_not_writable long]
  rfl

theorem stat_of_file {others : List String} (operands : i.operands [] = name :: others)
    (readable : i.disk.read name = some content) (now : Moment) :
    stat i now = (statLines i now name content).map .lines := by
  simp only [stat, operands, readable]

/-- The particulars of a file break off just when its size is too long to be written. -/
theorem stat_eq_error_iff {fault : Fault} :
    stat i now = .error fault ↔ fault = .tooManyToWrite ∧ ∃ name others content,
      i.operands [] = name :: others ∧ i.disk.read name = some content ∧
        isWritable (i.sizeOf name content) = false := by
  cases operands : i.operands [] with
  | nil => simp [stat, operands]
  | cons name others =>
    cases readable : i.disk.read name with
    | none => simp [stat, operands, readable]
    | some content =>
      rw [stat_of_file operands readable]
      cases fits : isWritable (i.sizeOf name content) with
      | true =>
        obtain ⟨lines, told, _⟩ := statLines_of_writable fits now
        simp [told, Except.map, readable, fits]
      | false =>
        rw [statLines_of_not_writable fits, Except.map, Except.error.injEq]
        exact ⟨fun same => ⟨same.symm, name, others, content, rfl, readable, fits⟩,
          fun breaks => breaks.1.symm⟩

end EmulatedShell

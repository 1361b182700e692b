import EmulatedShell.Commands.Navigation

namespace EmulatedShell

/-- The flags that ask for a long listing. -/
def longFlags : List String := ["-l", "-la", "-al", "-lh", "-lah"]

/-- What a listing answers that shows some entries. -/
def listingOf (long : Bool) (entries : List Entry) (now : Moment) : Except Fault Reply :=
  if long then (entries.mapM (Entry.longLine · now)).map .lines
  else .ok (.ok (joinWith "  " (entries.map Entry.name)))

/-- An entry on a line of its own that shows a size for it. -/
def Entry.lineWith (entry : Entry) (size : Int) (now : Moment) : String :=
  entry.listedPermissions ++ " 1 " ++ fileOwner ++ " " ++ fileOwner ++ " " ++
    toString size ++ " " ++ entry.dateText now ++ " " ++ entry.name

/-- The line of a long listing for an entry whose size can be written. -/
def Entry.listedLine (entry : Entry) (now : Moment) : String :=
  entry.lineWith entry.listedSize now

variable {i : Invocation} {token : String} {n : Int} {entry : Entry} {entries : List Entry}

theorem written_of_writable (fits : isWritable n = true) : written n = .ok (toString n) :=
  if_pos fits

theorem written_of_not_writable (long : isWritable n = false) :
    written n = .error .tooManyToWrite :=
  if_neg (Bool.eq_false_iff.mp long)

theorem longLine_of_writable (fits : isWritable entry.listedSize = true) (now : Moment) :
    entry.longLine now = .ok (entry.listedLine now) := by
  rw [Entry.longLine, written_of_writable fits]
  rfl

theorem longLine_of_not_writable (long : isWritable entry.listedSize = false) (now : Moment) :
    entry.longLine now = .error .tooManyToWrite := by
  rw [Entry.longLine, written_of_not_writable long]
  rfl

theorem mapM_longLine_of_writable (fits : ∀ entry ∈ entries, isWritable entry.listedSize = true)
    (now : Moment) :
    entries.mapM (Entry.longLine · now) = .ok (entries.map (Entry.listedLine · now)) := by
  induction entries with
  | nil => rfl
  | cons entry rest ih =>
    have first : entry.longLine now = .ok (entry.listedLine now) :=
      longLine_of_writable (fits entry List.mem_cons_self) now
    rw [List.mapM_cons, first, ih fun other hm => fits other (List.mem_cons_of_mem entry hm)]
    rfl

/-- One size that is too long to be written breaks off a whole listing. -/
theorem mapM_longLine_of_not_writable
    (long : ∃ entry ∈ entries, isWritable entry.listedSize = false) (now : Moment) :
    entries.mapM (Entry.longLine · now) = .error .tooManyToWrite := by
  induction entries with
  | nil => simp at long
  | cons entry rest ih =>
    rw [List.mapM_cons]
    cases fits : isWritable entry.listedSize with
    | false =>
      rw [longLine_of_not_writable fits]
      rfl
    | true =>
      have later : ∃ other ∈ rest, isWritable other.listedSize = false := by
        simpa [fits] using long
      rw [longLine_of_writable fits, ih later]
      rfl

theorem ls_eq (i : Invocation) (now : Moment) :
    ls i now = listingOf (i.command.hasFlag longFlags) (i.disk.listing (listedPath i)) now := by
  cases flag : i.command.hasFlag longFlags with
  | true => exact if_pos flag
  | false => exact if_neg (Bool.eq_false_iff.mp flag)

theorem listingOf_of_writable (fits : ∀ entry ∈ entries, isWritable entry.listedSize = true)
    (now : Moment) :
    listingOf true entries now = .ok (.lines (entries.map (Entry.listedLine · now))) := by
  rw [listingOf, if_pos rfl, mapM_longLine_of_writable fits]
  rfl

theorem listingOf_of_not_writable
    (long : ∃ entry ∈ entries, isWritable entry.listedSize = false) (now : Moment) :
    listingOf true entries now = .error .tooManyToWrite := by
  rw [listingOf, if_pos rfl, mapM_longLine_of_not_writable long]
  rfl

/-- A listing breaks off just when it is a long one and shows a size that is too long to be
written. -/
theorem ls_eq_error_iff {now : Moment} {fault : Fault} :
    ls i now = .error fault ↔ fault = .tooManyToWrite ∧ i.command.hasFlag longFlags = true ∧
      ∃ entry ∈ i.disk.listing (listedPath i), isWritable entry.listedSize = false := by
  rw [ls_eq]
  cases i.command.hasFlag longFlags with
  | false => simp [listingOf]
  | true =>
    by_cases long : ∃ entry ∈ i.disk.listing (listedPath i), isWritable entry.listedSize = false
    · rw [listingOf_of_not_writable long, Except.error.injEq]
      exact ⟨fun same => ⟨same.symm, rfl, long⟩, fun breaks => breaks.1.symm⟩
    · have fits : ∀ entry ∈ i.disk.listing (listedPath i),
          isWritable entry.listedSize = true := by simpa using long
      rw [listingOf_of_writable fits]
      simp [long]

theorem listedPath_of_operand (operand : i.args.filter isOperand = [token]) :
    listedPath i = i.resolve (some token) := by
  rw [listedPath, operand]

theorem listedPath_of_no_operand (none : i.args.filter isOperand = []) :
    listedPath i = i.directory := by
  rw [listedPath, none]

theorem Disk.listing_of_unknown {d : Disk} {path : String} (unknown : d.isDirectory path = false) :
    d.listing path = [] := by
  have absent : d.tree.get? path = none :=
    Option.isNone_iff_eq_none.mp (Option.isSome_eq_false_iff.mp unknown)
  rw [listing, absent, Option.getD_none]

end EmulatedShell

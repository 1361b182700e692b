import EmulatedShell.Proofs.Particulars
import EmulatedShell.Proofs.Path
import Mathlib.Algebra.Order.BigOperators.Group.List
import Mathlib.Algebra.Order.Group.Nat
import Std.Data.String.ToInt

namespace EmulatedShell

/-- An entry on a line of its own that shows its size, or the usual one if it has none. -/
def Entry.properLine (entry : Entry) (now : Moment) : String :=
  entry.lineWith (entry.size.getD 4096) now

/-- A line tells the size of an entry unless that is zero, and tells the usual size only for an entry
that has this one, none or zero. -/
structure Entry.IsToldIn (entry : Entry) (line : String) (now : Moment) : Prop where
  recorded : ∀ size, entry.size = some size → (line = entry.lineWith size now ↔ size ≠ 0)
  usual : line = entry.lineWith 4096 now ↔
    entry.size = none ∨ entry.size = some 0 ∨ entry.size = some 4096

/-- What is typed names a base name in a directory, by itself or by its whole path. -/
def NamesIn (directory base typed : String) : Prop :=
  typed = base ∧ beginsWith "/" base = false ∨
    typed = childPath directory base ∧ beginsWith "/" directory = true ∧ '/' ∉ base.toList

/-- A command is given a file that can be read and that is listed in the current directory. -/
structure IsGiven (i : Invocation) (typed content : String) (entry : Entry) : Prop where
  operand : ∃ others, i.operands [] = typed :: others
  readable : i.disk.read typed = some content
  listed : ∃ base, NamesIn i.directory base typed ∧
    i.disk.findEntry i.directory base = some entry

variable {i : Invocation} {entry : Entry} {typed content directory base : String}
variable {size other : Int} {now : Moment}

/-- Texts from one list that are nowhere shorter than others are as long when they make up the
same. -/
theorem lengths_of_joinWith_map {α : Type} {sep : String} {f g : α → String} {list : List α}
    (shorter : ∀ a ∈ list, (f a).length ≤ (g a).length)
    (same : joinWith sep (list.map g) = joinWith sep (list.map f)) :
    ∀ a ∈ list, (g a).length ≤ (f a).length := by
  intro a ha
  by_contra longer
  have nonempty : list ≠ [] := List.ne_nil_of_mem ha
  have less : (list.map fun a => (f a).length + sep.length).sum <
      (list.map fun a => (g a).length + sep.length).sum := by
    apply List.sum_lt_sum
    · intro b hb
      have := shorter b hb
      omega
    · exact ⟨a, ha, by omega⟩
  have some : ∀ h : α → String, list.map h ≠ [] := fun h empty =>
    nonempty (List.map_eq_nil_iff.mp empty)
  have lengths : (joinWith sep (list.map g)).length + sep.length =
      (joinWith sep (list.map f)).length + sep.length := by rw [same]
  rw [length_joinWith (some f), length_joinWith (some g), List.map_map, List.map_map] at lengths
  exact absurd lengths (Nat.ne_of_gt less)

namespace Entry

theorem lineWith_inj :
    entry.lineWith size now = entry.lineWith other now ↔ size = other := by
  constructor
  · intro same
    simp only [lineWith, String.append_left_inj, String.append_right_inj] at same
    exact Int.repr_injective same
  · rintro rfl
    rfl

theorem listedLine_shows_iff :
    entry.listedLine now = entry.lineWith size now ↔ size = entry.listedSize := by
  rw [listedLine, lineWith_inj, eq_comm]

theorem listedSize_of_size (recorded : entry.size = some size) :
    entry.listedSize = if size = 0 then 4096 else size := by
  rw [listedSize, recorded]
  rfl

theorem listedSize_of_no_size (unrecorded : entry.size = none) :
    entry.listedSize = 4096 := by
  rw [listedSize, unrecorded]
  rfl

theorem listedLine_proper_iff :
    entry.listedLine now = entry.properLine now ↔ entry.size ≠ some 0 := by
  rw [properLine, listedLine_shows_iff]
  cases recorded : entry.size with
  | none => simp [listedSize_of_no_size recorded]
  | some size =>
    rw [listedSize_of_size recorded, Option.getD_some]
    by_cases zero : size = 0
    · simp [zero]
    · simp [zero]

theorem listedLine_tells (entry : Entry) (now : Moment) :
    entry.IsToldIn (entry.listedLine now) now where
  recorded := by
    intro size recorded
    have proper : entry.properLine now = entry.lineWith size now := by
      rw [properLine, recorded, Option.getD_some]
    rw [← proper, listedLine_proper_iff, recorded]
    simp
  usual := by
    rw [listedLine_shows_iff]
    cases recorded : entry.size with
    | none => simp [listedSize_of_no_size recorded]
    | some size =>
      rw [listedSize_of_size recorded]
      by_cases zero : size = 0
      · simp [zero]
      · simp [zero, eq_comm]

theorem length_listedLine_of_zero (zero : entry.size = some 0) (now : Moment) :
    (entry.listedLine now).length = (entry.properLine now).length + 3 := by
  have four : (toString (4096 : Int)).length = (toString (0 : Int)).length + 3 := by decide
  rw [listedLine, properLine, listedSize_of_size zero, zero, Option.getD_some, if_pos rfl]
  simp only [lineWith, String.length_append, four]
  omega

theorem length_properLine_le (entry : Entry) (now : Moment) :
    (entry.properLine now).length ≤ (entry.listedLine now).length := by
  by_cases zero : entry.size = some 0
  · have := length_listedLine_of_zero zero now
    omega
  · rw [listedLine_proper_iff.mpr zero]

end Entry

/-- A long listing shows the sizes that there are when none is zero, and only then: each zero makes
it three characters too long. -/
theorem listedLines_proper_iff (entries : List Entry) (now : Moment) :
    Reply.lines (entries.map (Entry.listedLine · now)) =
        .lines (entries.map (Entry.properLine · now)) ↔
      ∀ entry ∈ entries, entry.size ≠ some 0 := by
  constructor
  · intro same entry listed zero
    have text : joinLines (entries.map (Entry.listedLine · now)) =
        joinLines (entries.map (Entry.properLine · now)) := congrArg Reply.output same
    have lengths := lengths_of_joinWith_map (fun entry _ => entry.length_properLine_le now) text
      entry listed
    have := entry.length_listedLine_of_zero zero now
    omega
  · intro sizes
    have lines : entries.map (Entry.listedLine · now) =
        entries.map (Entry.properLine · now) := by
      apply List.map_congr_left
      intro entry listed
      exact Entry.listedLine_proper_iff.mpr (sizes entry listed)
    rw [lines]

theorem childPath_of_rooted (rooted : beginsWith "/" directory = true) (base : String) :
    beginsWith "/" (childPath directory base) = true ∧
      ∃ front, childPath directory base = front ++ "/" ++ base ∧
        (if front = "" then "/" else front) = directory := by
  by_cases root : directory = "/"
  · have path : childPath directory base = "/" ++ base := by rw [childPath, if_pos root]
    rw [path]
    exact ⟨beginsWith_iff.mpr ⟨base, rfl⟩, "", rfl, root.symm⟩
  · have path : childPath directory base = directory ++ "/" ++ base := by
      rw [childPath, if_neg root]
    have nonempty : directory ≠ "" := by
      rintro rfl
      cases rooted
    refine ⟨?_, directory, path, if_neg nonempty⟩
    rw [path, String.append_assoc, beginsWith_slash_append nonempty, rooted]

theorem entryOf_of_path (i : Invocation) (rooted : beginsWith "/" directory = true)
    (free : '/' ∉ base.toList) :
    i.entryOf (childPath directory base) = i.disk.findEntry directory base := by
  obtain ⟨absolute, front, path, parent⟩ := childPath_of_rooted rooted base
  have pieces : split '/' (childPath directory base) = split '/' front ++ [base] := by
    have cut := split_append '/' front base
    rw [split_of_not_mem free] at cut
    rw [path]
    exact cut
  have stem : joinWith "/" (split '/' front) = front := joinWith_split '/' front
  rw [Invocation.entryOf, if_pos absolute, pieces]
  simp only [List.dropLast_concat, List.getLast?_concat, stem, parent, Option.getD_some]

theorem entryOf_of_namesIn (names : NamesIn i.directory base typed)
    (found : i.disk.findEntry i.directory base = some entry) : i.entryOf typed = some entry := by
  rcases names with ⟨rfl, relative⟩ | ⟨rfl, rooted, free⟩
  · rw [Invocation.entryOf, relative, found]
    rfl
  · rw [entryOf_of_path i rooted free, found]

theorem IsGiven.entryOf_eq (given : IsGiven i typed content entry) :
    i.entryOf typed = some entry := by
  obtain ⟨base, names, found⟩ := given.listed
  exact entryOf_of_namesIn names found

theorem IsGiven.sizeOf_eq (given : IsGiven i typed content entry)
    (recorded : entry.size = some size) : i.sizeOf typed content = size := by
  rw [Invocation.sizeOf, given.entryOf_eq, Option.bind_some, recorded, Option.getD_some]

/-- The particulars of a file tell a size that can be written, and break off at another one. -/
theorem IsGiven.stat_tells (given : IsGiven i typed content entry)
    (recorded : entry.size = some size) (now : Moment) :
    (isWritable size = true → ∃ lines, stat i now = .ok (.lines lines) ∧
      lines[1]? = some (sizeLine size)) ∧
    (isWritable size = false → stat i now = .error .tooManyToWrite) := by
  obtain ⟨others, operands⟩ := given.operand
  rw [stat_of_file operands given.readable, ← given.sizeOf_eq recorded]
  constructor
  · intro fits
    obtain ⟨lines, told, shown⟩ := statLines_of_writable fits now
    exact ⟨lines, by rw [told, Except.map], shown⟩
  · intro long
    rw [statLines_of_not_writable long, Except.map]

theorem IsGiven.mem_listing (given : IsGiven i typed content entry) :
    entry ∈ i.disk.listing i.directory := by
  obtain ⟨_, _, found⟩ := given.listed
  exact List.mem_of_find?_eq_some found

/-- What is told as the size of an entry and its line in a long listing agree on it unless it is
zero. -/
theorem told_as_listed_iff (recorded : entry.size = some size) (fits : isWritable size = true)
    {told : String} (tells : told = sizeLine size) (now : Moment) :
    (∃ shown, told = sizeLine shown ∧ entry.longLine now = .ok (entry.lineWith shown now)) ↔
      size ≠ 0 := by
  have usual : isWritable 4096 = true := by decide +kernel
  have listed : entry.longLine now = .ok (entry.listedLine now) := by
    apply longLine_of_writable
    rw [Entry.listedSize_of_size recorded]
    split
    · exact usual
    · exact fits
  rw [listed]
  constructor
  · rintro ⟨shown, told, line⟩ rfl
    have usual : shown = 4096 := by
      rw [Entry.listedLine_shows_iff.mp (Except.ok.inj line), Entry.listedSize_of_size recorded,
        if_pos rfl]
    have differs : sizeLine 0 ≠ sizeLine 4096 := by decide
    exact differs (usual ▸ tells.symm.trans told)
  · intro nonzero
    exact ⟨size, tells,
      congrArg _ (((entry.listedLine_tells now).recorded size recorded).mpr nonzero)⟩

/-- Sizes are told as they are recorded, except that a long listing tells the usual size where zero
is recorded, and that a size that is too long to be written breaks off what would tell it. -/
theorem sizes_told_unless_zero (i : Invocation) (now : Moment) :
    (i.command.hasFlag longFlags = true →
      ((∃ entry ∈ i.disk.listing (listedPath i), isWritable entry.listedSize = false) →
        ls i now = .error .tooManyToWrite) ∧
      ((∀ entry ∈ i.disk.listing (listedPath i), isWritable entry.listedSize = true) →
        ls i now =
          .ok (.lines ((i.disk.listing (listedPath i)).map (Entry.listedLine · now))) ∧
        (∀ entry ∈ i.disk.listing (listedPath i),
          entry.longLine now = .ok (entry.listedLine now) ∧
            entry.IsToldIn (entry.listedLine now) now) ∧
        (ls i now =
            .ok (.lines ((i.disk.listing (listedPath i)).map (Entry.properLine · now))) ↔
          ∀ entry ∈ i.disk.listing (listedPath i), entry.size ≠ some 0))) ∧
    (∀ typed content entry size, IsGiven i typed content entry → entry.size = some size →
      entry ∈ i.disk.listing i.directory ∧
      (isWritable size = false → stat i now = .error .tooManyToWrite) ∧
      (isWritable size = true → ∃ lines told, stat i now = .ok (.lines lines) ∧
        lines[1]? = some told ∧ told = sizeLine size ∧
        ∀ later, (∃ shown, told = sizeLine shown ∧
          entry.longLine later = .ok (entry.lineWith shown later)) ↔ size ≠ 0)) := by
  constructor
  · intro long
    rw [ls_eq, long]
    refine ⟨fun sizes => listingOf_of_not_writable sizes now, ?_⟩
    intro fits
    rw [listingOf_of_writable fits]
    refine ⟨rfl, ?_, ?_⟩
    · intro entry listed
      exact ⟨longLine_of_writable (fits entry listed) now, entry.listedLine_tells now⟩
    · rw [Except.ok.injEq]
      exact listedLines_proper_iff _ now
  · intro typed content entry size given recorded
    obtain ⟨tells, breaks⟩ := given.stat_tells recorded now
    refine ⟨given.mem_listing, breaks, ?_⟩
    intro fits
    obtain ⟨lines, stated, shown⟩ := tells fits
    exact ⟨lines, _, stated, shown, rfl, told_as_listed_iff recorded fits rfl⟩

/-- An empty file, and one that is not. -/
def fewFiles : Disk :=
  ⟨Table.ofList
    [("/home/user", [document "empty.txt" 0 usualPermissions,
      document "notes.md" 512 usualPermissions])],
    Table.ofList [("empty.txt", ""), ("/home/user/notes.md", "plans")]⟩

/-- A line that is run in the home directory among a few files. -/
def amongFewFiles (line : String) : Invocation :=
  ⟨Command.parse line, "/home/user", fewFiles, "user", "ai-terminal", "/home/user"⟩

/-- A size of one digit more than are written. -/
def hugeSize : Int := 10 ^ 4300

/-- A file that is larger than can be told. -/
def hugeFile : Disk :=
  ⟨Table.ofList [("/home/user", [document "huge.bin" hugeSize usualPermissions])],
    Table.ofList [("huge.bin", "")]⟩

theorem fewFiles_sizes_told_unless_zero :
    (amongFewFiles "ls -l").command.hasFlag longFlags = true ∧
    ls (amongFewFiles "ls -l") ⟨2024, 1, 20, 10, 30, 15, 0⟩ = .ok (.lines
      ["-rw-r--r-- 1 user user 4096 1/20/2024 empty.txt",
        "-rw-r--r-- 1 user user 512 1/20/2024 notes.md"]) ∧
    (IsGiven (amongFewFiles "stat /home/user/notes.md") "/home/user/notes.md" "plans"
        (document "notes.md" 512 usualPermissions) ∧
      ∃ lines, stat (amongFewFiles "stat /home/user/notes.md") ⟨2024, 1, 20, 10, 30, 15, 0⟩ =
        .ok (.lines lines) ∧ lines[1]? = some (sizeLine 512)) ∧
    (IsGiven (amongFewFiles "stat empty.txt") "empty.txt" ""
        (document "empty.txt" 0 usualPermissions) ∧
      ∃ lines, stat (amongFewFiles "stat empty.txt") ⟨2024, 1, 20, 10, 30, 15, 0⟩ =
        .ok (.lines lines) ∧ lines[1]? = some (sizeLine 0)) ∧
    (∃ entry ∈ hugeFile.listing "/home/user", isWritable entry.listedSize = false) ∧
    ls { amongFewFiles "ls -l" with disk := hugeFile } ⟨2024, 1, 20, 10, 30, 15, 0⟩ =
      .error .tooManyToWrite := by
  have long : (amongFewFiles "ls -l").command.hasFlag longFlags = true := by decide
  have fits : ∀ entry ∈ fewFiles.listing "/home/user", isWritable entry.listedSize = true := by
    decide +kernel
  have huge : ∃ entry ∈ hugeFile.listing "/home/user", isWritable entry.listedSize = false := by
    decide +kernel
  have notes : IsGiven (amongFewFiles "stat /home/user/notes.md") "/home/user/notes.md" "plans"
      (document "notes.md" 512 usualPermissions) :=
    ⟨⟨[], by decide +kernel⟩, by decide,
      "notes.md", .inr ⟨by decide, by decide, by decide⟩, by decide⟩
  have empty : IsGiven (amongFewFiles "stat empty.txt") "empty.txt" ""
      (document "empty.txt" 0 usualPermissions) :=
    ⟨⟨[], by decide⟩, by decide,
      "empty.txt", .inl ⟨rfl, by decide⟩, by decide⟩
  obtain ⟨listing, _⟩ :=
    sizes_told_unless_zero (amongFewFiles "ls -l") ⟨2024, 1, 20, 10, 30, 15, 0⟩
  obtain ⟨broken, _⟩ := sizes_told_unless_zero { amongFewFiles "ls -l" with disk := hugeFile }
    ⟨2024, 1, 20, 10, 30, 15, 0⟩
  obtain ⟨_, notesTold⟩ :=
    sizes_told_unless_zero (amongFewFiles "stat /home/user/notes.md") ⟨2024, 1, 20, 10, 30, 15, 0⟩
  obtain ⟨_, emptyTold⟩ :=
    sizes_told_unless_zero (amongFewFiles "stat empty.txt") ⟨2024, 1, 20, 10, 30, 15, 0⟩
  obtain ⟨_, told⟩ := listing long
  obtain ⟨breaks, _⟩ := broken long
  obtain ⟨lines, _, _⟩ := told fits
  obtain ⟨_, _, whole⟩ := notesTold _ _ _ _ notes rfl
  obtain ⟨_, _, none⟩ := emptyTold _ _ _ _ empty rfl
  obtain ⟨wholeLines, _, wholeStated, wholeShown, rfl, _⟩ := whole (by decide +kernel)
  obtain ⟨noneLines, _, noneStated, noneShown, rfl, _⟩ := none (by decide +kernel)
  refine ⟨long, lines.trans ?_, ⟨notes, wholeLines, wholeStated, wholeShown⟩,
    ⟨empty, noneLines, noneStated, noneShown⟩, huge, breaks huge⟩
  decide

/-- A long listing does not show all sizes that are recorded, even if all can be written. -/
theorem fewFiles_hide_zero : ¬∀ (i : Invocation) (now : Moment),
    i.command.hasFlag longFlags = true →
      (∀ entry ∈ i.disk.listing (listedPath i), isWritable entry.listedSize = true) →
      ls i now =
        .ok (.lines ((i.disk.listing (listedPath i)).map (Entry.properLine · now))) := by
  intro shows
  have fits : ∀ entry ∈ fewFiles.listing "/home/user", isWritable entry.listedSize = true := by
    decide +kernel
  have shown := shows (amongFewFiles "ls -l") ⟨2024, 1, 20, 10, 30, 15, 0⟩ (by decide) fits
  revert shown
  decide +kernel

end EmulatedShell

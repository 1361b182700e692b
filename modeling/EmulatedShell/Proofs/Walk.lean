import EmulatedShell.Commands.Searching
import EmulatedShell.Disk.Usual
import EmulatedShell.Proofs.Lookup
import EmulatedShell.Proofs.Path
import EmulatedShell.Proofs.Tokens
import Mathlib.Data.List.DropRight
import Mathlib.Data.Option.Basic

namespace EmulatedShell

/-- An entry is of the kind that a walk asks for and has a matching name. -/
def isWanted (i : Invocation) (entry : Entry) : Bool :=
  entry.isKind (i.command.flagValue "-type") &&
    matchesGlob (unquote ((i.command.flagValue "-name").getD "*")) entry.name

/-- The line that a walk prints for an entry of a directory, if it prints one. -/
def walkLine? (i : Invocation) (path : String) (entry : Entry) : Option String :=
  (pathBelow (walkRoot i) path).bind fun below =>
    if isWanted i entry then some (dropSlashes (walkStart i) ++ below ++ "/" ++ entry.name)
    else none

/-- What a walk is to print: the entries of the root and of the directories below it that are of
the kind asked for and have a matching name. -/
structure Sought (i : Invocation) (path : String) (entry : Entry) : Prop where
  below : segments (walkRoot i) <+: segments path
  file : i.command.flagValue "-type" = some "f" → entry.kind = .file
  folder : i.command.flagValue "-type" = some "d" → entry.kind = .directory
  named : matchesGlob (unquote ((i.command.flagValue "-name").getD "*")) entry.name = true

/-- The start as it was typed, the way down from it, and the name. -/
def walkLine (i : Invocation) (path : String) (entry : Entry) : String :=
  dropSlashes (walkStart i) ++ wayDown ((segments path).drop (segments (walkRoot i)).length) ++
    "/" ++ entry.name

variable {i : Invocation} {root path text : String} {entry : Entry}

theorem sought_iff : Sought i path entry ↔
    segments (walkRoot i) <+: segments path ∧
      (i.command.flagValue "-type" = some "f" → entry.kind = .file) ∧
      (i.command.flagValue "-type" = some "d" → entry.kind = .directory) ∧
      matchesGlob (unquote ((i.command.flagValue "-name").getD "*")) entry.name = true :=
  ⟨fun ⟨below, file, folder, named⟩ => ⟨below, file, folder, named⟩,
    fun ⟨below, file, folder, named⟩ => ⟨below, file, folder, named⟩⟩

instance (i : Invocation) (path : String) (entry : Entry) : Decidable (Sought i path entry) :=
  decidable_of_iff _ sought_iff.symm

theorem Entry.isKind_iff {letter : Option String} : entry.isKind letter = true ↔
    (letter = some "f" → entry.kind = .file) ∧ (letter = some "d" → entry.kind = .directory) := by
  simp only [isKind, Bool.and_eq_true, Bool.or_eq_true, bne_iff_ne, beq_iff_eq, ne_eq, imp_iff_not_or]

theorem sought_iff_wanted : Sought i path entry ↔
    segments (walkRoot i) <+: segments path ∧ isWanted i entry = true := by
  rw [sought_iff, isWanted, Bool.and_eq_true, Entry.isKind_iff, and_assoc]

theorem dropSlashes_eq_self (h : text.toList.getLast? ≠ some '/') : dropSlashes text = text := by
  apply String.toList_inj.mp
  rw [dropSlashes, String.toList_ofList]
  apply List.rdropWhile_eq_self_iff.mpr
  intro nonempty
  rw [List.getLast?_eq_some_getLast nonempty] at h
  simpa using h

/-- Without slashes at its end a normal path is the way down from the root. -/
theorem dropSlashes_of_isNormal (h : IsNormal path) :
    dropSlashes path = wayDown (segments path) := by
  by_cases root : path = "/"
  · rw [root]
    rfl
  · rw [dropSlashes_eq_self (h.getLast_ne_slash root), ← h.eq_wayDown root]

theorem stem_of_isNormal (h : IsNormal root) :
    (if root = "/" then "" else root) = wayDown (segments root) := by
  split
  next top => rw [top, segments_root, wayDown]
  next below => exact h.eq_wayDown below

theorem segments_of_begins (h : beginsWith (wayDown (segments root) ++ "/") path = true) :
    segments root <+: segments path := by
  obtain ⟨rest, rfl⟩ := beginsWith_iff.mp h
  refine ⟨segments rest, ?_⟩
  rw [segments_append, segments_wayDown fun _ => isSegment_of_mem_segments]

/-- Of normal paths those lie below the root whose segments continue its own. -/
theorem pathBelow_of_isNormal (hr : IsNormal root) (hp : IsNormal path) :
    pathBelow root path =
      if segments root <+: segments path then
        some (wayDown ((segments path).drop (segments root).length))
      else none := by
  unfold pathBelow
  simp only [stem_of_isNormal hr]
  by_cases same : path = root
  · simp [same, wayDown]
  rw [if_neg same]
  by_cases below : segments root <+: segments path
  · obtain ⟨rest, hrest⟩ := below
    obtain ⟨first, more, rfl⟩ : ∃ first more, rest = first :: more := by
      apply List.exists_cons_of_ne_nil
      rintro rfl
      exact same (hp.eq_of_segments hr (by rw [← hrest, List.append_nil]))
    have deep : path ≠ "/" := by
      rintro rfl
      simp [segments_root] at hrest
    have written : path = wayDown (segments root) ++ wayDown (first :: more) := by
      rw [← wayDown_append, hrest]
      exact hp.eq_wayDown deep
    have begins : beginsWith (wayDown (segments root) ++ "/") path = true :=
      beginsWith_iff.mpr ⟨first ++ wayDown more, by
        rw [written, wayDown, String.append_assoc, String.append_assoc]⟩
    have after : path.toList.drop (wayDown (segments root)).length =
        (wayDown (first :: more)).toList := by
      rw [written, String.toList_append, ← String.length_toList, List.drop_left]
    rw [if_pos begins, if_pos ⟨_, hrest⟩, after, String.ofList_toList, ← hrest, List.drop_left]
  · rw [if_neg below, if_neg fun begins => below (segments_of_begins begins)]

example : pathBelow "/home/user" "/home/user2" = none := by decide

theorem find_of_known (known : i.disk.isDirectory (walkRoot i) = true) :
    find i = .lines (i.disk.allEntries.filterMap fun pair => walkLine? i pair.1 pair.2) := by
  unfold find
  rw [if_pos known]
  congr 1
  apply List.filterMap_congr
  rintro ⟨path, entry⟩ _
  unfold walkLine? isWanted
  cases hb : pathBelow (walkRoot i) path with
  | none => simp [hb]
  | some below =>
    simp only [hb, Option.bind_eq_bind, Option.bind_some, guard]
    split <;> rfl

theorem find_of_unknown (unknown : i.disk.isDirectory (walkRoot i) = false) :
    find i = .fail ("find: '" ++ walkStart i ++ "': No such file or directory") := by
  simp [find, unknown]

/-- The lines that a walk prints for some directories and their entries. -/
def walkLines (i : Invocation) (directories : List (String × List Entry)) : List String :=
  directories.flatMap fun directory => directory.2.filterMap (walkLine? i directory.1)

theorem find_eq_walkLines (known : i.disk.isDirectory (walkRoot i) = true) :
    find i = .lines (walkLines i i.disk.tree.entries) := by
  rw [find_of_known known, Disk.allEntries, List.filterMap_flatMap]
  simp only [List.filterMap_map]
  rfl

theorem trueFrom_head (truths : List Bool) :
    (trueFrom truths).headD false = true ↔ true ∈ truths := by
  induction truths with
  | nil => simp [trueFrom]
  | cons b rest ih =>
    rw [trueFrom, List.headD_cons, Bool.or_eq_true, ih, List.mem_cons]
    simp [eq_comm]

/-- A star matches every name. -/
theorem matchesGlob_star (name : String) : matchesGlob "*" name = true := by
  change (trueFrom (name.toList.map (fun _ => false) ++ [true])).headD false = true
  rw [trueFrom_head]
  simp

theorem isWanted_of_no_flags (plain : ∀ token ∈ i.command.args, isFlag token = false) :
    isWanted i entry = true := by
  have kind : i.command.flagValue "-type" = none :=
    Command.flagValue_of_no_flags (by decide) plain
  have name : i.command.flagValue "-name" = none :=
    Command.flagValue_of_no_flags (by decide) plain
  rw [isWanted, kind, name, Bool.and_eq_true, Entry.isKind_iff]
  exact ⟨by simp, matchesGlob_star entry.name⟩

/-- Without flags the root's own entries all have a line, the start and the name. -/
theorem walkLines_root (plain : ∀ token ∈ i.command.args, isFlag token = false)
    (entries : List Entry) : walkLines i [(walkRoot i, entries)] =
      entries.map fun entry => dropSlashes (walkStart i) ++ "/" ++ entry.name := by
  have here : pathBelow (walkRoot i) (walkRoot i) = some "" := by simp [pathBelow]
  rw [walkLines, List.flatMap_singleton, ← List.filterMap_eq_map']
  apply List.filterMap_congr
  intro entry _
  rw [walkLine?, here, Option.bind_some, if_pos (isWanted_of_no_flags plain), String.append_empty]

/-- A walk without flags shows the names in its root where that stands on the disk. -/
theorem find_of_no_flags (plain : ∀ token ∈ i.command.args, isFlag token = false)
    (known : i.disk.isDirectory (walkRoot i) = true) {entries : List Entry}
    {before after : List (String × List Entry)}
    (placed : i.disk.tree.entries = before ++ (walkRoot i, entries) :: after) :
    find i = .lines (walkLines i before ++
      (entries.map fun entry => dropSlashes (walkStart i) ++ "/" ++ entry.name) ++
      walkLines i after) := by
  have parts : walkLines i (before ++ [(walkRoot i, entries)] ++ after) =
      walkLines i before ++ walkLines i [(walkRoot i, entries)] ++ walkLines i after := by
    simp only [walkLines, List.flatMap_append]
  rw [walkLines_root plain] at parts
  rw [find_eq_walkLines known, placed, ← parts, List.append_assoc, List.singleton_append]

/-- Between normal paths a line is printed for just what is sought. -/
theorem walkLine?_of_isNormal (hr : IsNormal (walkRoot i)) (hp : IsNormal path) :
    walkLine? i path entry =
      if Sought i path entry then some (walkLine i path entry) else none := by
  unfold walkLine?
  rw [pathBelow_of_isNormal hr hp]
  simp only [sought_iff_wanted]
  by_cases below : segments (walkRoot i) <+: segments path
  · simp only [below, if_true, true_and]
    rfl
  · simp only [below, false_and, if_false]
    rfl

theorem walkStart_ne_empty (i : Invocation) : walkStart i ≠ "" := by
  unfold walkStart
  cases ha : i.command.arg 0 with
  | none => decide
  | some start =>
    obtain ⟨_, nonempty⟩ := Option.filter_eq_some_iff.mp ha
    by_cases flag : isFlag start = true
    · simp [flag]
    · simpa [flag] using nonempty

theorem beginsWith_wayDown (names : List String) (rest : String) :
    beginsWith "/" (wayDown names ++ "/" ++ rest) = true := by
  apply beginsWith_iff.mpr
  cases names with
  | nil => exact ⟨rest, by rw [wayDown, String.empty_append]⟩
  | cons name more => exact ⟨name ++ wayDown more ++ "/" ++ rest, by
      simp only [wayDown, String.append_assoc]⟩

theorem wayDown_of_prefix (below : segments root <+: segments path) :
    wayDown (segments root) ++ wayDown ((segments path).drop (segments root).length) =
      wayDown (segments path) := by
  rw [← wayDown_append, List.prefix_iff_eq_append.mp below]

theorem resolve_walkLine_of_absolute (hr : IsNormal (walkRoot i)) (hp : IsNormal path)
    (below : segments (walkRoot i) <+: segments path) (here : walkStart i ≠ ".")
    (slash : beginsWith "/" (walkStart i) = true) :
    i.resolve (some (walkLine i path entry)) = childPath path entry.name := by
  have hroot : walkRoot i = resolvePath i.directory (some (walkStart i)) i.home := if_neg here
  rw [resolvePath_absolute slash] at hroot
  have line : walkLine i path entry = wayDown (segments path) ++ "/" ++ entry.name := by
    rw [walkLine, ← hroot, dropSlashes_of_isNormal hr, wayDown_of_prefix below]
  rw [line, childPath_of_isNormal hp]
  exact resolvePath_absolute (beginsWith_wayDown _ _)

theorem resolve_walkLine_of_relative (hr : IsNormal (walkRoot i)) (hp : IsNormal path)
    (below : segments (walkRoot i) <+: segments path) (here : walkStart i ≠ ".")
    (points : walkStart i ≠ "..") (tilde : walkStart i ≠ "~")
    (relative : beginsWith "/" (walkStart i) = false) :
    i.resolve (some (walkLine i path entry)) = childPath path entry.name := by
  have nonempty : walkStart i ≠ "" := walkStart_ne_empty i
  have hroot : walkRoot i = resolvePath i.directory (some (walkStart i)) i.home := if_neg here
  rw [resolvePath_relative nonempty tilde points relative] at hroot
  have deep : walkRoot i ≠ "/" := hroot ▸ childPath_ne_root nonempty
  have line : walkLine i path entry = walkStart i ++
      (wayDown ((segments path).drop (segments (walkRoot i)).length) ++ "/" ++ entry.name) := by
    rw [walkLine, dropSlashes_eq_self (getLast_ne_slash_of_childPath (hroot ▸ hr) nonempty)]
    simp only [String.append_assoc]
  rw [line, childPath_of_isNormal hp]
  calc i.resolve (some (walkStart i ++ _))
      = walkRoot i ++
          (wayDown ((segments path).drop (segments (walkRoot i)).length) ++ "/" ++ entry.name) := by
        rw [hroot]
        exact resolvePath_onward nonempty relative (by simp)
    _ = wayDown (segments path) ++ "/" ++ entry.name := by
        rw [← wayDown_of_prefix below, ← hr.eq_wayDown deep]
        simp only [String.append_assoc]

theorem Disk.mem_keys_of_mem_allEntries {d : Disk} {pair : String × Entry}
    (h : pair ∈ d.allEntries) : pair.1 ∈ d.tree.keys := by
  obtain ⟨directory, hd, hm⟩ := List.mem_flatMap.mp h
  obtain ⟨entry, _, rfl⟩ := List.mem_map.mp hm
  exact List.mem_map_of_mem hd

/-- A disk on which the names of two directories start alike. -/
def twinHomes : Disk where
  tree := Table.ofList
    [("/home", [folder "user", folder "user2"]),
     ("/home/user2", [document "other.md" 7 usualPermissions]),
     ("/home/user/notes", [document "plan.md" 5 usualPermissions, folder "old.md"]),
     ("/home/user", [folder "notes", document "todo.md" 3 usualPermissions])]
  contents := .empty

/-- A walk from one of them. -/
def homeWalk : Invocation :=
  ⟨Command.parse "find user -name '*.md' -type f", "/home", twinHomes, "user", "ai-terminal",
    "/home/user"⟩

end EmulatedShell

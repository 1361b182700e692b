import EmulatedShell.Proofs.Calls
import EmulatedShell.Proofs.Flags
import EmulatedShell.Proofs.Path

namespace EmulatedShell

/-- A part at the end of a name that is neither empty nor the whole of it. -/
def IsProperEnding (ending name : String) : Prop :=
  ending ≠ "" ∧ ∃ stem, stem ≠ "" ∧ stem ++ ending = name

/-- A path is taken apart into a directory and a name. Together they have the segments of the path,
and they start with a slash if the path does or has none at all. -/
structure Invocation.TakesApart (i : Invocation) (path directory name : String) : Prop where
  above : i.Gives "dirname" [path] directory 0
  last : i.Gives "basename" [path] name 0
  segments : segments (childPath directory name) = segments path
  absolute : beginsWith "/" (childPath directory name) = true ↔
    beginsWith "/" path = true ∨ '/' ∉ path.toList
  whole : ∀ ending, ¬IsProperEnding ending name → i.Gives "basename" [path, ending] name 0
  shortened : ∀ ending, IsProperEnding ending name → ∃ stem, stem ≠ "" ∧ stem ++ ending = name ∧
    i.Gives "basename" [path, ending] stem 0

variable {i : Invocation} {path front back directory name stem ending text : String}

theorem exists_last_slash (present : '/' ∈ path.toList) :
    ∃ front back, '/' ∉ back.toList ∧ path = front ++ "/" ++ back := by
  obtain ⟨back, front, reversed, absent⟩ :=
    List.eq_append_cons_of_mem (List.mem_reverse.mpr present)
  refine ⟨String.ofList front.reverse, String.ofList back.reverse, by simpa using absent, ?_⟩
  apply String.toList_inj.mp
  rw [← List.reverse_inj, reversed]
  simp

theorem lastPiece_append_slash (front back : String) :
    lastPiece (front ++ "/" ++ back) = lastPiece back := by
  have nonempty : split '/' back ≠ [] :=
    fun none => splitChars_ne_nil '/' back.toList (List.map_eq_nil_iff.mp none)
  have cut : split '/' (front ++ "/" ++ back) = split '/' front ++ split '/' back :=
    split_append '/' front back
  rw [lastPiece, cut, List.getLast?_append_of_ne_nil _ nonempty, lastPiece]

theorem lastPiece_of_not_mem (absent : '/' ∉ text.toList) : lastPiece text = text := by
  rw [lastPiece, split_of_not_mem absent]
  rfl

theorem withoutLastPiece_append_slash (absent : '/' ∉ back.toList) :
    withoutLastPiece (front ++ "/" ++ back) = if front = "" then "/" else front := by
  have cut : split '/' (front ++ "/" ++ back) = split '/' front ++ split '/' back :=
    split_append '/' front back
  have joined : joinWith "/" (split '/' front) = front := joinWith_split '/' front
  rw [withoutLastPiece, cut, split_of_not_mem absent, List.dropLast_concat, joined]

theorem withoutLastPiece_of_not_mem (absent : '/' ∉ text.toList) : withoutLastPiece text = "/" := by
  rw [withoutLastPiece, split_of_not_mem absent]
  rfl

/-- A path and its parts have the same segments. -/
theorem segments_parts (path : String) :
    segments (childPath (withoutLastPiece path) (lastPiece path)) = segments path := by
  rw [segments_childPath]
  by_cases present : '/' ∈ path.toList
  · obtain ⟨front, back, absent, rfl⟩ := exists_last_slash present
    rw [withoutLastPiece_append_slash absent, lastPiece_append_slash,
      lastPiece_of_not_mem absent, segments_append]
    split
    next empty => rw [empty, segments_root, segments_empty]
    next => rfl
  · rw [withoutLastPiece_of_not_mem present, lastPiece_of_not_mem present, segments_root,
      List.nil_append]

theorem beginsWith_childPath_iff :
    beginsWith "/" (childPath directory name) = true ↔
      directory = "" ∨ beginsWith "/" directory = true := by
  by_cases root : directory = "/"
  · rw [root, childPath, if_pos rfl]
    exact iff_of_true (beginsWith_iff.mpr ⟨name, rfl⟩) (.inr rfl)
  · rw [childPath, if_neg root]
    by_cases empty : directory = ""
    · rw [empty, String.empty_append]
      exact iff_of_true (beginsWith_iff.mpr ⟨name, rfl⟩) (.inl rfl)
    · rw [String.append_assoc, beginsWith_slash_append empty, or_iff_right empty]

theorem beginsWith_parts_iff (path : String) :
    beginsWith "/" (childPath (withoutLastPiece path) (lastPiece path)) = true ↔
      beginsWith "/" path = true ∨ '/' ∉ path.toList := by
  rw [beginsWith_childPath_iff]
  by_cases present : '/' ∈ path.toList
  · obtain ⟨front, back, absent, rfl⟩ := exists_last_slash present
    rw [withoutLastPiece_append_slash absent, or_iff_left (not_not.mpr present)]
    by_cases empty : front = ""
    · rw [if_pos empty, empty, String.empty_append]
      exact iff_of_true (.inr rfl) (beginsWith_iff.mpr ⟨back, rfl⟩)
    · rw [if_neg empty, or_iff_right empty, String.append_assoc, beginsWith_slash_append empty]
  · rw [withoutLastPiece_of_not_mem present]
    exact iff_of_true (.inr rfl) (.inr present)

/-- A directory without segments is the root, however it is written, or the empty text. -/
theorem beginsWith_of_segments_eq_nil (none : segments directory = []) :
    directory = "" ∨ beginsWith "/" directory = true := by
  cases chars : directory.toList with
  | nil => exact .inl (String.toList_eq_nil_iff.mp chars)
  | cons c rest =>
    right
    by_contra relative
    have other : c ≠ '/' := by
      rintro rfl
      exact relative (by simp [beginsWith, chars])
    obtain ⟨piece, pieces, cut⟩ := List.exists_cons_of_ne_nil (splitChars_ne_nil '/' rest)
    have first : String.ofList (c :: piece) ∈ segments directory := by
      apply List.mem_filter.mpr
      constructor
      · simp [split, chars, splitChars, other, cut]
      · simp
    rw [none] at first
    cases first

theorem dropEnding_append (nonempty : stem ≠ "") :
    dropEnding (some ending) (stem ++ ending) = stem := by
  have ends : finishesWith ending (stem ++ ending) = true := by simp [finishesWith]
  have longer : stem ++ ending ≠ ending := by
    intro same
    have length := congrArg String.length same
    rw [String.length_append] at length
    have positive : stem.length ≠ 0 := by simpa using nonempty
    omega
  have condition : (finishesWith ending (stem ++ ending) && stem ++ ending != ending) = true := by
    rw [ends, Bool.true_and]
    exact bne_iff_ne.mpr longer
  have stemLength : (stem ++ ending).toList.length - ending.length = stem.toList.length := by
    rw [String.length_toList, String.length_append, String.length_toList]
    omega
  rw [dropEnding, if_pos condition, dropLast, stemLength]
  simp

theorem dropEnding_of_not_proper (h : ¬IsProperEnding ending name) (nonempty : ending ≠ "") :
    dropEnding (some ending) name = name := by
  have condition : (finishesWith ending name && name != ending) ≠ true := by
    intro both
    obtain ⟨ends, other⟩ := Bool.and_eq_true_iff.mp both
    obtain ⟨stem, hs⟩ := List.isSuffixOf_iff_suffix.mp ends
    have written : String.ofList stem ++ ending = name := by
      apply String.toList_inj.mp
      simp [hs]
    refine h ⟨nonempty, String.ofList stem, fun empty => bne_iff_ne.mp other ?_, written⟩
    rw [← written, empty, String.empty_append]
  rw [dropEnding, if_neg condition]

section

variable (given : path ≠ "")

include given

theorem gives_dirname : i.Gives "dirname" [path] (withoutLastPiece path) 0 := by
  apply Invocation.gives_of_plain (builtinUtilities_of_lookup rfl)
  rw [dirname, Command.arg_of_getElem? rfl given]
  rfl

theorem gives_basename : i.Gives "basename" [path] (lastPiece path) 0 := by
  apply Invocation.gives_of_plain (builtinUtilities_of_lookup rfl)
  rw [basename, Command.arg_of_getElem? rfl given]
  rfl

theorem gives_basename_ending (nonempty : ending ≠ "") :
    i.Gives "basename" [path, ending] (dropEnding (some ending) (lastPiece path)) 0 := by
  apply Invocation.gives_of_plain (builtinUtilities_of_lookup rfl)
  rw [basename, Command.arg_of_getElem? rfl given]
  dsimp only
  rw [Command.arg_of_getElem? rfl nonempty]
  rfl

theorem gives_basename_no_ending : i.Gives "basename" [path, ""] (lastPiece path) 0 := by
  apply Invocation.gives_of_plain (builtinUtilities_of_lookup rfl)
  rw [basename, Command.arg_of_getElem? rfl given]
  rfl

end

/-- A path is taken apart without loss, and a name is never shortened to nothing. -/
theorem path_taken_apart (i : Invocation) (given : path ≠ "") :
    ∃ directory name, i.TakesApart path directory name := by
  refine ⟨withoutLastPiece path, lastPiece path, ?_⟩
  constructor
  case above => exact gives_dirname given
  case last => exact gives_basename given
  case segments => exact segments_parts path
  case absolute => exact beginsWith_parts_iff path
  case whole =>
    intro ending improper
    by_cases empty : ending = ""
    · rw [empty]
      exact gives_basename_no_ending given
    · have shown := gives_basename_ending (i := i) given empty
      rwa [dropEnding_of_not_proper improper empty] at shown
  case shortened =>
    rintro ending ⟨nonempty, stem, some, written⟩
    have shown := gives_basename_ending (i := i) given nonempty
    rw [← written, dropEnding_append some] at shown
    exact ⟨stem, some, written, shown⟩

theorem archive_taken_apart :
    "/var//app.tar.gz" ≠ "" ∧
    ∃ directory name, (beside "notes.txt" "tea").TakesApart "/var//app.tar.gz" directory name ∧
      directory = "/var/" ∧ name = "app.tar.gz" ∧
      (beside "notes.txt" "tea").Gives "basename" ["/var//app.tar.gz", ".gz"] "app.tar" 0 := by
  have given : "/var//app.tar.gz" ≠ "" := by decide
  obtain ⟨directory, name, apart⟩ := path_taken_apart (beside "notes.txt" "tea") given
  have above : directory = "/var/" :=
    (apart.above.unique (gives_dirname given)).1.trans (by decide)
  have last : name = "app.tar.gz" :=
    (apart.last.unique (gives_basename given)).1.trans (by decide)
  have ending : IsProperEnding ".gz" name := ⟨by decide, "app.tar", by decide, last.symm⟩
  obtain ⟨stem, _, written, shown⟩ := apart.shortened ".gz" ending
  have same : stem ++ ".gz" = "app.tar" ++ ".gz" := written.trans last
  rw [String.append_left_inj] at same
  exact ⟨given, directory, name, apart, above, last, same ▸ shown⟩

/-- A name without a slash is said to lie in the root. Nothing else could be said of it: a directory
that adds no segment to it makes its path absolute. -/
theorem plain_name_not_taken_apart :
    (¬∀ (i : Invocation) (path directory name : String), path ≠ "" →
      i.Gives "dirname" [path] directory 0 → i.Gives "basename" [path] name 0 →
        segments (childPath directory name) = segments path ∧
        (beginsWith "/" (childPath directory name) = true ↔ beginsWith "/" path = true)) ∧
    ∀ directory, segments (childPath directory "notes.txt") = segments "notes.txt" →
      beginsWith "/" (childPath directory "notes.txt") = true := by
  constructor
  · intro lossless
    have given : "notes.txt" ≠ "" := by decide
    have absolute := (lossless (beside "notes.txt" "tea") "notes.txt" _ _ given
      (gives_dirname given) (gives_basename given)).2
    revert absolute
    decide
  · intro directory same
    rw [segments_childPath, List.append_left_eq_self] at same
    exact beginsWith_childPath_iff.mpr (beginsWith_of_segments_eq_nil same)

end EmulatedShell

import EmulatedShell.Path
import EmulatedShell.Proofs.Text.Split
import Mathlib.Data.List.Induction
import Mathlib.Logic.Function.Iterate

namespace EmulatedShell

/-- A text that can stand between two slashes of a path. -/
def IsSegment (name : String) : Prop := name ≠ "" ∧ '/' ∉ name.toList

/-- A path that its segments determine: it starts with a slash, and single slashes part them. -/
def IsNormal (path : String) : Prop := rootedPath (segments path) = path

instance : DecidablePred IsNormal := fun path =>
  inferInstanceAs (Decidable (rootedPath (segments path) = path))

/-- Segments with a slash before each. -/
def wayDown : List String → String
  | [] => ""
  | name :: rest => "/" ++ name ++ wayDown rest

/-- The path of a name in a directory. -/
def childPath (directory name : String) : String :=
  if directory = "/" then "/" ++ name else directory ++ "/" ++ name

variable {path name : String} {names : List String}

theorem segments_empty : segments "" = [] := rfl

theorem segments_root : segments "/" = [] := rfl

/-- A slash ends a segment. All laws of segments follow from this one. -/
theorem segments_append (front back : String) :
    segments (front ++ "/" ++ back) = segments front ++ segments back := by
  have cut : split '/' (front ++ "/" ++ back) = split '/' front ++ split '/' back :=
    split_append '/' front back
  rw [segments, cut, List.filter_append]
  rfl

theorem segments_slash_append (path : String) : segments ("/" ++ path) = segments path := by
  have h := segments_append "" path
  rwa [String.empty_append, segments_empty, List.nil_append] at h

theorem segments_of_isSegment (h : IsSegment name) : segments name = [name] := by
  rw [segments, split_of_not_mem h.2]
  simp [h.1]

theorem isSegment_of_mem_segments (h : name ∈ segments path) : IsSegment name := by
  obtain ⟨piece, nonempty⟩ := List.mem_filter.mp h
  exact ⟨by simpa using nonempty, not_mem_of_mem_split piece⟩

theorem isSegment_of_mem_dropLast (h : name ∈ (segments path).dropLast) : IsSegment name :=
  isSegment_of_mem_segments ((List.dropLast_sublist (segments path)).mem h)

theorem segments_joinWith (h : ∀ name ∈ names, IsSegment name) :
    segments (joinWith "/" names) = names := by
  by_cases empty : names = []
  · rw [empty]
    rfl
  · have pieces : split '/' (joinWith "/" names) = names :=
      split_joinWith empty fun name hn => (h name hn).2
    rw [segments, pieces]
    apply List.filter_eq_self.mpr
    intro name hn
    simpa using (h name hn).1

/-- The path through some segments has just these. -/
theorem segments_rootedPath (h : ∀ name ∈ names, IsSegment name) :
    segments (rootedPath names) = names := by
  rw [rootedPath, segments_slash_append, segments_joinWith h]

theorem isNormal_rootedPath (h : ∀ name ∈ names, IsSegment name) : IsNormal (rootedPath names) := by
  rw [IsNormal, segments_rootedPath h]

theorem IsNormal.eq_of_segments {other : String} (hp : IsNormal path) (ho : IsNormal other)
    (h : segments path = segments other) : path = other := by
  rw [← hp, ← ho, h]

theorem IsNormal.eq_root_iff (h : IsNormal path) : path = "/" ↔ segments path = [] := by
  constructor
  · rintro rfl
    exact segments_root
  · intro empty
    rw [← h, empty]
    rfl

/-- The parent has all segments but the last. -/
theorem segments_parentPath (path : String) :
    segments (parentPath path) = (segments path).dropLast :=
  segments_rootedPath fun _ => isSegment_of_mem_dropLast

theorem isNormal_parentPath (path : String) : IsNormal (parentPath path) :=
  isNormal_rootedPath fun _ => isSegment_of_mem_dropLast

theorem length_segments_iterate_parentPath (n : Nat) (path : String) :
    (segments (parentPath^[n] path)).length = (segments path).length - n := by
  induction n with
  | zero => rfl
  | succ n ih =>
    rw [Function.iterate_succ_apply', segments_parentPath, List.length_dropLast, ih]
    omega

theorem isNormal_iterate_parentPath (h : IsNormal path) (n : Nat) :
    IsNormal (parentPath^[n] path) := by
  cases n with
  | zero => exact h
  | succ n =>
    rw [Function.iterate_succ_apply']
    exact isNormal_parentPath _

/-- The way up from a normal path ends at the root after as many steps as it has segments. -/
theorem iterate_parentPath_eq_root_iff (h : IsNormal path) (n : Nat) :
    parentPath^[n] path = "/" ↔ (segments path).length ≤ n := by
  rw [(isNormal_iterate_parentPath h n).eq_root_iff, ← List.length_eq_zero_iff,
    length_segments_iterate_parentPath]
  omega

/-- The parent written with the library's own cuts and joins. -/
theorem parentPath_eq (path : String) : parentPath path =
    "/" ++ "/".intercalate
      (((path.toList.splitOn '/').filter (· ≠ [])).dropLast.map String.ofList) := by
  have pieces : segments path =
      ((path.toList.splitOn '/').filter (· ≠ [])).map String.ofList := by
    rw [segments, split_eq_map_splitOn, List.filter_map]
    congr 1
    apply List.filter_congr
    intro piece _
    cases piece with
    | nil => rfl
    | cons c rest => simp [← String.toList_inj]
  rw [parentPath, rootedPath, joinWith_eq_intercalate, pieces, ← List.map_dropLast]

theorem childPath_eq_append (directory : String) :
    ∃ front, ∀ name, childPath directory name = front ++ "/" ++ name := by
  by_cases h : directory = "/"
  · exact ⟨"", fun name => by rw [childPath, if_pos h, String.empty_append]⟩
  · exact ⟨directory, fun name => by rw [childPath, if_neg h]⟩

theorem childPath_append (directory name rest : String) :
    childPath directory (name ++ rest) = childPath directory name ++ rest := by
  obtain ⟨front, hf⟩ := childPath_eq_append directory
  rw [hf, hf, String.append_assoc, String.append_assoc, String.append_assoc]

theorem childPath_ne_root {directory : String} (h : name ≠ "") :
    childPath directory name ≠ "/" := by
  obtain ⟨front, hf⟩ := childPath_eq_append directory
  intro root
  rw [hf] at root
  have length := congrArg (·.toList.length) root
  have some : name.toList.length ≠ 0 := by simpa using h
  simp only [String.toList_append, List.length_append] at length
  have slash : "/".toList.length = 1 := rfl
  omega

theorem segments_childPath (directory name : String) :
    segments (childPath directory name) = segments directory ++ segments name := by
  unfold childPath
  split
  next h => rw [h, segments_slash_append, segments_root, List.nil_append]
  next => exact segments_append directory name

/-- Above a name in a directory is the directory. -/
theorem parentPath_childPath {directory : String} (hd : IsNormal directory)
    (hn : IsSegment name) : parentPath (childPath directory name) = directory := by
  rw [parentPath, segments_childPath, segments_of_isSegment hn, List.dropLast_concat]
  exact hd

theorem wayDown_append (front back : List String) :
    wayDown (front ++ back) = wayDown front ++ wayDown back := by
  induction front with
  | nil => exact (String.empty_append).symm
  | cons name rest ih => rw [List.cons_append, wayDown, wayDown, ih, ← String.append_assoc]

theorem rootedPath_eq_wayDown (h : names ≠ []) : rootedPath names = wayDown names := by
  induction names with
  | nil => exact absurd rfl h
  | cons name rest ih =>
    cases rest with
    | nil => simp [rootedPath, joinWith, wayDown]
    | cons next rest =>
      rw [wayDown, ← ih (List.cons_ne_nil next rest)]
      simp [rootedPath, joinWith, String.append_assoc]

theorem segments_wayDown (h : ∀ name ∈ names, IsSegment name) :
    segments (wayDown names) = names := by
  by_cases empty : names = []
  · rw [empty]
    rfl
  · rw [← rootedPath_eq_wayDown empty, segments_rootedPath h]

theorem IsNormal.eq_wayDown (h : IsNormal path) (below : path ≠ "/") :
    path = wayDown (segments path) := by
  have nonempty : segments path ≠ [] := fun empty => below (h.eq_root_iff.mpr empty)
  rw [← rootedPath_eq_wayDown nonempty]
  exact h.symm

theorem childPath_of_isNormal {directory : String} (h : IsNormal directory) (name : String) :
    childPath directory name = wayDown (segments directory) ++ "/" ++ name := by
  unfold childPath
  split
  next root =>
    rw [root, segments_root, wayDown, String.empty_append]
  next below => rw [← h.eq_wayDown below]

theorem wayDown_getLast_ne_slash (h : ∀ name ∈ names, IsSegment name) :
    (wayDown names).toList.getLast? ≠ some '/' := by
  induction names using List.reverseRecOn with
  | nil => simp [wayDown]
  | append_singleton front last _ =>
    have hl : IsSegment last := h last (by simp)
    have nonempty : last.toList ≠ [] := by simpa using hl.1
    have written : (wayDown (front ++ [last])).toList =
        (wayDown front ++ "/").toList ++ last.toList := by simp [wayDown_append, wayDown]
    rw [written, List.getLast?_append_of_ne_nil _ nonempty]
    exact fun slash => hl.2 (List.mem_of_getLast? slash)

theorem IsNormal.getLast_ne_slash (h : IsNormal path) (below : path ≠ "/") :
    path.toList.getLast? ≠ some '/' := by
  rw [h.eq_wayDown below]
  exact wayDown_getLast_ne_slash fun _ => isSegment_of_mem_segments

/-- What leads to a normal path does not end with a slash. -/
theorem getLast_ne_slash_of_childPath {directory : String} (h : IsNormal (childPath directory name))
    (nonempty : name ≠ "") : name.toList.getLast? ≠ some '/' := by
  have ends := h.getLast_ne_slash (childPath_ne_root nonempty)
  obtain ⟨front, hf⟩ := childPath_eq_append directory
  have last : name.toList ≠ [] := by simpa using nonempty
  rwa [hf, String.toList_append, List.getLast?_append_of_ne_nil _ last] at ends

theorem beginsWith_iff {start text : String} :
    beginsWith start text = true ↔ ∃ rest, text = start ++ rest := by
  rw [beginsWith, List.isPrefixOf_iff_prefix]
  constructor
  · rintro ⟨rest, hr⟩
    refine ⟨String.ofList rest, String.toList_inj.mp ?_⟩
    simp [hr]
  · rintro ⟨rest, rfl⟩
    exact ⟨rest.toList, by simp⟩

theorem beginsWith_slash_append {text : String} (h : text ≠ "") (more : String) :
    beginsWith "/" (text ++ more) = beginsWith "/" text := by
  have nonempty : text.toList ≠ [] := by simpa using h
  obtain ⟨c, rest, hc⟩ := List.exists_cons_of_ne_nil nonempty
  simp [beginsWith, hc, List.isPrefixOf]

theorem resolvePath_absolute {current target home : String} (h : beginsWith "/" target = true) :
    resolvePath current (some target) home = target := by
  have empty : target ≠ "" := by
    rintro rfl
    cases h
  have tilde : target ≠ "~" := by
    rintro rfl
    cases h
  have points : target ≠ ".." := by
    rintro rfl
    cases h
  simp [resolvePath, empty, tilde, points, h]

theorem resolvePath_relative {current target home : String} (empty : target ≠ "")
    (tilde : target ≠ "~") (points : target ≠ "..") (h : beginsWith "/" target = false) :
    resolvePath current (some target) home = childPath current target := by
  simp [resolvePath, empty, tilde, points, h, childPath]

/-- A relative target that goes on after a slash leads on from where its start leads. -/
theorem resolvePath_onward {current start rest home : String} (nonempty : start ≠ "")
    (relative : beginsWith "/" start = false) (slash : '/' ∈ rest.toList) :
    resolvePath current (some (start ++ rest)) home = childPath current start ++ rest := by
  have differs : ∀ word : String, '/' ∉ word.toList → start ++ rest ≠ word := by
    rintro word free rfl
    exact free (by simp [slash])
  have onward : beginsWith "/" (start ++ rest) = false := by
    rw [beginsWith_slash_append nonempty, relative]
  rw [← childPath_append]
  exact resolvePath_relative (differs "" (by decide)) (differs "~" (by decide))
    (differs ".." (by decide)) onward

theorem resolvePath_segment {current home : String} (hn : IsSegment name) (tilde : name ≠ "~")
    (points : name ≠ "..") : resolvePath current (some name) home = childPath current name := by
  apply resolvePath_relative hn.1 tilde points
  apply Bool.eq_false_iff.mpr
  intro slash
  obtain ⟨rest, rfl⟩ := beginsWith_iff.mp slash
  exact hn.2 (by simp)

theorem resolvePath_parent (current home : String) :
    resolvePath current (some "..") home = parentPath current := rfl

end EmulatedShell

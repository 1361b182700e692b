import EmulatedShell.Proofs.Path
import EmulatedShell.Proofs.Session.Operation
import EmulatedShell.Proofs.Session.Prompt

namespace EmulatedShell

/-- The directory that stands in a prompt, with the home directory in the place of its tilde. -/
def expandTilde (home shown : String) : String :=
  if beginsWith "~" shown then home ++ String.ofList (shown.toList.drop 1) else shown

/-- A directory that is the home directory or lies below it. -/
def IsAtHome (home directory : String) : Prop :=
  directory = home ∨ ∃ rest, directory = home ++ "/" ++ rest

variable {home directory other : String}

theorem IsAtHome.exists_append (h : IsAtHome home directory) : ∃ rest, directory = home ++ rest := by
  rcases h with rfl | ⟨rest, rfl⟩
  · exact ⟨"", (String.append_empty).symm⟩
  · exact ⟨"/" ++ rest, String.append_assoc ..⟩

theorem shownDirectory_append {rest : String} (h : IsAtHome home (home ++ rest)) :
    shownDirectory home (home ++ rest) = "~" ++ rest := by
  have below : (decide (home ++ rest = home) || beginsWith (home ++ "/") (home ++ rest)) = true := by
    rw [Bool.or_eq_true, decide_eq_true_eq, beginsWith_iff]
    exact h
  have kept : (home ++ rest).toList.drop home.length = rest.toList := by
    rw [String.toList_append, ← String.length_toList, List.drop_left]
  rw [shownDirectory, if_pos below, kept, String.ofList_toList]

theorem shownDirectory_of_not_atHome (h : ¬IsAtHome home directory) :
    shownDirectory home directory = directory := by
  have away : ¬(decide (directory = home) || beginsWith (home ++ "/") directory) = true := by
    rw [Bool.or_eq_true, decide_eq_true_eq, beginsWith_iff]
    exact h
  rw [shownDirectory, if_neg away]

theorem not_tilde_of_rooted (rooted : beginsWith "/" directory = true) :
    ¬beginsWith "~" directory = true := by
  intro tilde
  obtain ⟨rest, rfl⟩ := beginsWith_iff.mp rooted
  obtain ⟨more, same⟩ := beginsWith_iff.mp tilde
  have first := congrArg (fun text => text.toList.head?) same
  simp at first

/-- A tilde stands for the home directory, and nothing else starts with one. -/
theorem shownDirectory_tilde_iff (rooted : beginsWith "/" directory = true) :
    beginsWith "~" (shownDirectory home directory) = true ↔ IsAtHome home directory := by
  by_cases h : IsAtHome home directory
  · obtain ⟨rest, rfl⟩ := h.exists_append
    rw [shownDirectory_append h]
    exact ⟨fun _ => h, fun _ => beginsWith_iff.mpr ⟨rest, rfl⟩⟩
  · rw [shownDirectory_of_not_atHome h]
    exact ⟨fun tilde => absurd tilde (not_tilde_of_rooted rooted), fun at_home => absurd at_home h⟩

theorem expandTilde_shownDirectory (rooted : beginsWith "/" directory = true) :
    expandTilde home (shownDirectory home directory) = directory := by
  by_cases h : IsAtHome home directory
  · obtain ⟨rest, rfl⟩ := h.exists_append
    have tilde : beginsWith "~" ("~" ++ rest) = true := beginsWith_iff.mpr ⟨rest, rfl⟩
    have kept : ("~" ++ rest).toList.drop 1 = rest.toList := by
      rw [String.toList_append]
      rfl
    rw [shownDirectory_append h, expandTilde, if_pos tilde, kept, String.ofList_toList]
  · rw [shownDirectory_of_not_atHome h, expandTilde, if_neg (not_tilde_of_rooted rooted)]

theorem shownDirectory_inj (rooted : beginsWith "/" directory = true)
    (otherRooted : beginsWith "/" other = true) :
    shownDirectory home directory = shownDirectory home other ↔ directory = other := by
  constructor
  · intro same
    rw [← expandTilde_shownDirectory rooted, same, expandTilde_shownDirectory otherRooted]
  · rintro rfl
    rfl

namespace Session

variable {host : Host} {s t : Session}

theorem prompt_of_usual (usual : host.settings.promptTemplate = usualSettings.promptTemplate)
    (s : Session) : s.prompt host = .ok (host.settings.user ++ "@" ++ host.settings.hostname ++
      ":" ++ shownDirectory host.settings.home s.directory ++ "$ ") :=
  promptIn_usual usual s.directory

/-- The usual prompt shows the user, the host and the directory, with a tilde for the home directory
and for nothing else, and in no other directory does it look the same. -/
theorem prompt_identifies_directory
    (usual : host.settings.promptTemplate = usualSettings.promptTemplate)
    (rooted : beginsWith "/" s.directory = true) (otherRooted : beginsWith "/" t.directory = true) :
    (∃ shown, s.prompt host = .ok (host.settings.user ++ "@" ++ host.settings.hostname ++ ":" ++
        shown ++ "$ ") ∧
      (beginsWith "~" shown = true ↔ IsAtHome host.settings.home s.directory) ∧
      expandTilde host.settings.home shown = s.directory) ∧
    (s.prompt host = t.prompt host ↔ s.directory = t.directory) := by
  refine ⟨⟨_, prompt_of_usual usual s, shownDirectory_tilde_iff rooted,
    expandTilde_shownDirectory rooted⟩, ?_⟩
  rw [prompt_of_usual usual s, prompt_of_usual usual t, Except.ok.injEq, String.append_left_inj,
    String.append_right_inj, shownDirectory_inj rooted otherRooted]

/-- The usual shell of a user whose name and home directory hold what looks like a field. -/
def bracedShell : Shell :=
  { usualShell with
    settings := { usualSettings with user := "\x7bcwd\x7d", home := "/home/\x7buser\x7d" } }

/-- A session in a directory below that home. -/
def indoors : Session := { outset with directory := "/home/\x7buser\x7d/notes" }

/-- A session in a directory beside that home, whose path starts in the same way. -/
def outdoors : Session := { outset with directory := "/home/\x7buser\x7dnotes" }

theorem braced_prompt_identifies_directory :
    bracedShell.settings.promptTemplate = usualSettings.promptTemplate ∧
    beginsWith "/" indoors.directory = true ∧ beginsWith "/" outdoors.directory = true ∧
    (∃ shown, indoors.prompt bracedShell = .ok ("\x7bcwd\x7d" ++ "@" ++ "ai-terminal" ++ ":" ++
        shown ++ "$ ") ∧
      (beginsWith "~" shown = true ↔ IsAtHome "/home/\x7buser\x7d" indoors.directory) ∧
      expandTilde "/home/\x7buser\x7d" shown = indoors.directory) ∧
    (indoors.prompt bracedShell = outdoors.prompt bracedShell ↔
      indoors.directory = outdoors.directory) := by
  have inside : beginsWith "/" indoors.directory = true := by decide
  have outside : beginsWith "/" outdoors.directory = true := by decide
  obtain ⟨shows, differs⟩ := @prompt_identifies_directory bracedShell indoors outdoors rfl inside
    outside
  exact ⟨rfl, inside, outside, shows, differs⟩

end Session

end EmulatedShell

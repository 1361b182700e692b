import EmulatedShell.Prediction.Basic
import EmulatedShell.Proofs.Text.Lowercase

namespace EmulatedShell

theorem normalTyped_eq (typed : String) : normalTyped typed = lowercase (trim typed) :=
  trim_lowercase typed

theorem normalTyped_length (typed : String) :
    (normalTyped typed).length = (trim typed).length + (trim typed).toList.count 'İ' := by
  rw [normalTyped_eq, lowercase_length]

/-- Small letters have blanks at their ends where the text has. -/
theorem trim_lowercase_eq_self_iff {text : String} :
    trim (lowercase text) = lowercase text ↔ trim text = text := by
  constructor
  · intro h
    have hs : (trim text).toList.Sublist text.toList := trim_toList_sublist text
    have hl := congrArg String.length h
    rw [trim_lowercase, lowercase_length, lowercase_length] at hl
    have hc := hs.count_le 'İ'
    have hle := hs.length_le
    rw [String.length_toList, String.length_toList] at hle
    have he : (trim text).toList.length = text.toList.length := by
      rw [String.length_toList, String.length_toList]
      omega
    exact String.toList_inj.mp (hs.eq_of_length he)
  · intro h
    rw [trim_lowercase, h]

namespace Predictor

variable {p : Predictor} {typed last suggestion : String} {history : List String}

theorem fromPatterns_ne_typed (h : p.fromPatterns typed = some suggestion) :
    lowercase suggestion ≠ typed := by
  obtain ⟨pattern, found, rfl⟩ := Option.map_eq_some_iff.mp h
  have accepted := List.find?_some found
  simp only [Bool.and_eq_true, bne_iff_ne] at accepted
  exact accepted.2

theorem fromFollowUps_ne_typed (h : p.fromFollowUps typed last = some suggestion) :
    lowercase suggestion ≠ typed := by
  obtain ⟨rule, found, rfl⟩ := Option.map_eq_some_iff.mp h
  have accepted := List.find?_some found
  simp only [Bool.and_eq_true, bne_iff_ne] at accepted
  exact accepted.2

theorem predict_of_short (h : (normalTyped typed).length < shortestTyped) :
    p.predict typed history = none := by
  simp [predict, h]

/-- A suggestion is taken from the patterns or follows from the last command. -/
theorem predict_cases (h : p.predict typed history = some suggestion) :
    shortestTyped ≤ (normalTyped typed).length ∧
      (p.fromPatterns (normalTyped typed) = some suggestion ∨
        ∃ last, history.getLast? = some last ∧
          p.fromFollowUps (normalTyped typed) (lowercase last) = some suggestion) := by
  unfold predict at h
  dsimp only at h
  split at h
  next => simp at h
  next long =>
    refine ⟨by omega, ?_⟩
    split at h
    next found => exact .inl (found.trans h)
    next => exact .inr (Option.bind_eq_some_iff.mp h)

/-- What is compared with the typed text is the suggestion in small letters, blanks and all. -/
theorem predict_ne_typed (h : p.predict typed history = some suggestion) :
    lowercase suggestion ≠ normalTyped typed := by
  rcases (predict_cases h).2 with found | ⟨last, _, found⟩
  · exact fromPatterns_ne_typed found
  · exact fromFollowUps_ne_typed found

/-- The predictor that suggests one line after every command. -/
def always (suggestion : String) : Predictor := ⟨.empty, [⟨"", fun _ => true, suggestion⟩]⟩

theorem predict_always (long : shortestTyped ≤ (normalTyped typed).length)
    (other : lowercase suggestion ≠ normalTyped typed) :
    (always suggestion).predict typed [""] = some suggestion := by
  have needle : contains "" (lowercase "") = true := rfl
  have offered : (always suggestion).fromFollowUps (normalTyped typed) (lowercase "") =
      some suggestion := by
    simp [fromFollowUps, always, TypedTest.accepts, needle, other]
  have patternless : (always suggestion).fromPatterns (normalTyped typed) = none := rfl
  simp only [predict, patternless, List.getLast?_singleton, Option.bind_some, offered]
  rw [if_neg (by omega)]

/-- A suggestion never is the typed text, nor the same but for capitals and blanks at the ends,
exactly when it has no blanks at its ends or is too short to be typed for one. -/
theorem never_typed_iff (suggestion : String) :
    (∀ (p : Predictor) (typed : String) (history : List String),
      p.predict typed history = some suggestion →
        suggestion ≠ typed ∧ normalTyped suggestion ≠ normalTyped typed) ↔
      trim suggestion = suggestion ∨ (normalTyped suggestion).length < 3 := by
  constructor
  · intro never
    by_contra padded
    simp only [not_or, Nat.not_lt] at padded
    have other : lowercase suggestion ≠ normalTyped suggestion := by
      intro same
      exact padded.1 (trim_lowercase_eq_self_iff.mp same.symm)
    exact (never _ _ _ (predict_always padded.2 other)).1 rfl
  · intro apart p typed history found
    have different : normalTyped suggestion ≠ normalTyped typed := by
      intro same
      rcases apart with trimmed | short
      · have plain : normalTyped suggestion = lowercase suggestion :=
          trim_lowercase_eq_self_iff.mpr trimmed
        exact predict_ne_typed found (plain.symm.trans same)
      · have long : 3 ≤ (normalTyped typed).length := (predict_cases found).1
        rw [← same] at long
        omega
    exact ⟨fun same => different (congrArg normalTyped same), different⟩

/-- A pattern whose line has blanks at its ends. -/
def padded : Predictor := ⟨Table.ofList [("git status", " git ")], []⟩

theorem padded_suggests_typed : ¬∀ (p : Predictor) (typed : String) (history : List String),
    p.predict typed history = none ∨ ∃ suggestion, p.predict typed history = some suggestion ∧
      suggestion ≠ typed ∧ normalTyped suggestion ≠ normalTyped typed := by
  intro never
  have found : padded.predict " git " [] = some " git " := by decide
  rcases never padded " git " [] with silent | ⟨suggestion, other, different, _⟩
  · rw [found] at silent
    cases silent
  · rw [found] at other
    exact different (Option.some.inj other).symm

end Predictor

end EmulatedShell

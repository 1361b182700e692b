import EmulatedShell.Proofs.Session.Suggestion

namespace EmulatedShell

namespace Predictor

/-- The lines that there are to suggest. -/
def suggestions (p : Predictor) : List String :=
  p.patterns.values ++ p.followUps.map FollowUp.suggestion

/-- No pattern offers anything for a typed text, and a follow-up that accepts it has just that text
to suggest. -/
def settles (p : Predictor) (typed : String) : Bool :=
  (p.fromPatterns typed).isNone && p.followUps.all fun rule =>
    !rule.test.accepts typed || lowercase rule.suggestion == typed

variable {p : Predictor} {typed last suggestion : String} {history : List String}

theorem mem_suggestions_of_fromPatterns (h : p.fromPatterns typed = some suggestion) :
    suggestion ∈ p.suggestions := by
  obtain ⟨pattern, found, rfl⟩ := Option.map_eq_some_iff.mp h
  have listed : pattern ∈ p.patterns.entries := List.mem_of_find?_eq_some found
  exact List.mem_append_left _ (List.mem_map_of_mem listed)

theorem mem_suggestions_of_fromFollowUps (h : p.fromFollowUps typed last = some suggestion) :
    suggestion ∈ p.suggestions := by
  obtain ⟨rule, found, rfl⟩ := Option.map_eq_some_iff.mp h
  have listed : rule ∈ p.followUps := List.mem_of_find?_eq_some found
  exact List.mem_append_right _ (List.mem_map_of_mem listed)

theorem mem_suggestions_of_predict (h : p.predict typed history = some suggestion) :
    suggestion ∈ p.suggestions := by
  rcases (predict_cases h).2 with found | ⟨last, _, found⟩
  · exact mem_suggestions_of_fromPatterns found
  · exact mem_suggestions_of_fromFollowUps found

theorem fromFollowUps_of_settles (h : p.settles typed = true) (last : String) :
    p.fromFollowUps typed last = none := by
  have quiet := (Bool.and_eq_true_iff.mp h).2
  rw [fromFollowUps, Option.map_eq_none_iff, List.find?_eq_none]
  intro rule hm offered
  have silent := List.all_eq_true.mp quiet rule hm
  simp only [Bool.and_eq_true, bne_iff_ne] at offered
  simp [offered.1.2, offered.2] at silent

/-- For a text that settles nothing is suggested, whatever happened before. -/
theorem predict_of_settles (h : p.settles (normalTyped typed) = true) (history : List String) :
    p.predict typed history = none := by
  cases found : p.predict typed history with
  | none => rfl
  | some suggestion =>
    rcases (predict_cases found).2 with offered | ⟨last, _, offered⟩
    · have patternless := (Bool.and_eq_true_iff.mp h).1
      rw [offered] at patternless
      cases patternless
    · rw [fromFollowUps_of_settles h] at offered
      cases offered

theorem usual_suggestions_settle : (usualPredictor.suggestions.all fun suggestion =>
    usualPredictor.settles (normalTyped suggestion)) = true := by
  decide +kernel

/-- What is suggested with the usual patterns and follow-ups needs no further suggestion. -/
theorem usual_predict_predict (h : usualPredictor.predict typed history = some suggestion)
    (later : List String) : usualPredictor.predict suggestion later = none := by
  have settled := List.all_eq_true.mp usual_suggestions_settle suggestion
    (mem_suggestions_of_predict h)
  exact predict_of_settles settled later

end Predictor

namespace Session

variable {host : Host} {s : Session} {typed suggestion : String}

theorem predict_of_suggest (h : s.suggest host typed = some suggestion) :
    s.executing = false ∧ host.predictor.predict typed s.lines = some suggestion := by
  unfold suggest at h
  split at h
  next => cases h
  next ready =>
    simp only [Bool.or_eq_true, decide_eq_true_eq, not_or, Bool.not_eq_true] at ready
    exact ⟨ready.2, h⟩

theorem suggest_of_predict_none (h : host.predictor.predict typed s.lines = none) :
    s.suggest host typed = none := by
  unfold suggest
  split
  next => rfl
  next => exact h

theorem accept_of_suggestion {input : Option String}
    (h : s.suggest host (input.getD "") = some suggestion) :
    s.accept host input = some suggestion := by
  rw [accept, h, Option.orElse_eq_orElse]
  rfl

theorem accept_of_silence {input : Option String} (h : s.suggest host (input.getD "") = none) :
    s.accept host input = input := by
  rw [accept, h]
  rfl

/-- To accept a suggestion twice is to accept it once. With the usual patterns and follow-ups nothing
is suggested for an accepted suggestion, neither at once nor at any other time. -/
theorem accept_accept (usual : host.predictor = usualPredictor) (s : Session)
    (input : Option String) :
    s.accept host (s.accept host input) = s.accept host input ∧
    ∀ suggestion, s.suggest host (input.getD "") = some suggestion →
      s.accept host input = some suggestion ∧
      ∀ later : Session, later.suggest host suggestion = none := by
  have settled : ∀ suggestion, s.suggest host (input.getD "") = some suggestion →
      ∀ later : Session, later.suggest host suggestion = none := by
    intro suggestion found later
    obtain ⟨_, predicted⟩ := predict_of_suggest found
    apply suggest_of_predict_none
    rw [usual] at predicted ⊢
    exact Predictor.usual_predict_predict predicted later.lines
  refine ⟨?_, fun suggestion found => ⟨accept_of_suggestion found, settled suggestion found⟩⟩
  cases found : s.suggest host (input.getD "") with
  | none => rw [accept_of_silence found, accept_of_silence found]
  | some suggestion =>
    rw [accept_of_suggestion found]
    exact accept_of_silence (settled suggestion found s)

/-- A session in which the network was looked at last. -/
def afterPing : Session :=
  { outset with history := [⟨⟨0, 1⟩, "Ping -c 4 google.com", "", outset.now, 0, "/"⟩] }

/-- No pattern goes on from the text, and the follow-up that speaks up accepts its own line too. -/
theorem afterPing_accept_accept :
    usualShell.predictor = usualPredictor ∧
    afterPing.accept usualShell (some " Tro") = some "traceroute google.com" ∧
    afterPing.accept usualShell (some "traceroute google.com") = some "traceroute google.com" ∧
    outset.suggest usualShell "traceroute google.com" = none := by
  have usual : usualShell.predictor = usualPredictor := rfl
  have found : afterPing.suggest usualShell " Tro" = some "traceroute google.com" := by
    decide +kernel
  obtain ⟨again, settled⟩ := accept_accept usual afterPing (some " Tro")
  obtain ⟨accepted, silent⟩ := settled "traceroute google.com" found
  rw [accepted] at again
  exact ⟨usual, accepted, again, silent outset⟩

end Session

end EmulatedShell

import EmulatedShell.Proofs.Prediction
import EmulatedShell.Proofs.Session.Operation

namespace EmulatedShell

namespace Session

variable {host : Host} {s : Session} {typed : String}

theorem suggest_of_long (idle : s.executing = false) (long : shortestTyped ≤ (trim typed).length) :
    s.suggest host typed = host.predictor.predict typed s.lines := by
  rw [suggest, idle, Bool.or_false, if_neg (by simpa using long)]

theorem suggest_of_short (short : (trim typed).length < shortestTyped) :
    s.suggest host typed = none := by
  simp [suggest, short]

/-- A shell that suggests the empty line after every command. -/
def offering : Shell := { usualShell with predictor := .always "" }

/-- A session with one record, of an empty line. -/
def afterNothing : Session :=
  { outset with history := [⟨⟨0, 1⟩, "", "", outset.now, 0, "/"⟩] }

/-- In an idle session the suggestions for a text are those of the predictor, whatever the predictor
and the records, unless the text is too short as it is typed and long enough in small letters. Only
the capital i with a dot becomes longer. -/
theorem suggests_as_predicted_iff (typed : String) :
    (∀ (host : Host) (s : Session), s.executing = false →
      s.suggest host typed = host.predictor.predict typed s.lines) ↔
      3 ≤ (trim typed).length ∨
        (trim typed).length + (trim typed).toList.count 'İ' < 3 := by
  constructor
  · intro agree
    by_contra between
    simp only [not_or, Nat.not_le, Nat.not_lt] at between
    obtain ⟨short, long⟩ := between
    rw [← normalTyped_length] at long
    have other : lowercase "" ≠ normalTyped typed := by
      intro same
      rw [← same] at long
      exact absurd long (by decide)
    have offered : offering.predictor.predict typed afterNothing.lines = some "" :=
      Predictor.predict_always long other
    have same := agree offering afterNothing rfl
    rw [suggest_of_short short, offered] at same
    cases same
  · rintro (long | short) host s idle
    · exact suggest_of_long idle long
    · rw [← normalTyped_length] at short
      have trimmed : (trim typed).length < 3 := by
        rw [normalTyped_length] at short
        omega
      rw [suggest_of_short trimmed, Predictor.predict_of_short short]

/-- A shell with one pattern, which starts with a capital i with a dot. -/
def travelling : Shell :=
  { usualShell with
    predictor := ⟨Table.ofList [("İstanbul", "ping istanbul.example")], []⟩ }

theorem travelling_predicts_more : ¬∀ (host : Host) (s : Session) (typed : String),
    s.executing = false → s.suggest host typed = host.predictor.predict typed s.lines := by
  intro agree
  have silent : outset.suggest travelling "İs" = none := by decide
  have found : travelling.predictor.predict "İs" outset.lines = some "ping istanbul.example" := by
    decide
  have same : outset.suggest travelling "İs" = travelling.predictor.predict "İs" outset.lines :=
    agree travelling outset "İs" rfl
  rw [silent, found] at same
  cases same

end Session

end EmulatedShell

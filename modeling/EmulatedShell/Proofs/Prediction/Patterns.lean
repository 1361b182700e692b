import EmulatedShell.Prediction.Usual
import EmulatedShell.Proofs.Prediction

namespace EmulatedShell

/-- A pattern offers its line for a typed text: its key goes on where the text ends, and the line is
not the text itself. -/
structure Offers (typed : String) (pattern : String × String) : Prop where
  onward : typed.toList <+: (lowercase pattern.1).toList
  further : lowercase pattern.1 ≠ typed
  other : lowercase pattern.2 ≠ typed

theorem offers_iff {typed : String} {pattern : String × String} : Offers typed pattern ↔
    (beginsWith typed (lowercase pattern.1) && lowercase pattern.1 != typed &&
      lowercase pattern.2 != typed) = true := by
  simp only [Bool.and_eq_true, bne_iff_ne, beginsWith, List.isPrefixOf_iff_prefix]
  constructor
  · rintro ⟨onward, further, other⟩
    exact ⟨⟨onward, further⟩, other⟩
  · rintro ⟨⟨onward, further⟩, other⟩
    exact ⟨onward, further, other⟩

instance (typed : String) : DecidablePred (Offers typed) := fun _ => decidable_of_iff' _ offers_iff

theorem prefix_antisymm {front text : String} (h : front.toList <+: text.toList)
    (back : text.toList <+: front.toList) : front = text :=
  String.toList_inj.mp (h.eq_of_length_le back.length_le)

/-- A pattern that offers its line for a longer text offers it for a shorter one, unless the line is
just the shorter text. -/
theorem Offers.of_longer {typed longer : String} {pattern : String × String}
    (h : Offers longer pattern) (grown : typed.toList <+: longer.toList)
    (other : lowercase pattern.2 ≠ typed) : Offers typed pattern := by
  refine ⟨grown.trans h.onward, ?_, other⟩
  rintro rfl
  exact h.further (prefix_antisymm grown h.onward)

namespace Predictor

/-- The first of the patterns that offers a line for the typed text, with the line. -/
def Chooses (p : Predictor) (typed key suggestion : String) : Prop :=
  ∃ before after, p.patterns.entries = before ++ (key, suggestion) :: after ∧
    Offers typed (key, suggestion) ∧ ∀ pattern ∈ before, ¬Offers typed pattern

variable {p : Predictor} {typed longer key suggestion : String} {history : List String}

theorem fromPatterns_eq (p : Predictor) (typed : String) : p.fromPatterns typed =
    (p.patterns.entries.find? fun pattern => decide (Offers typed pattern)).map Prod.snd := by
  unfold fromPatterns
  congr 2
  funext pattern
  rw [Bool.eq_iff_iff, decide_eq_true_iff]
  exact offers_iff.symm

theorem fromPatterns_eq_some_iff :
    p.fromPatterns typed = some suggestion ↔ ∃ key, p.Chooses typed key suggestion := by
  rw [fromPatterns_eq, Option.map_eq_some_iff]
  constructor
  · rintro ⟨⟨key, line⟩, found, rfl⟩
    obtain ⟨offered, before, after, placed, first⟩ := List.find?_eq_some_iff_append.mp found
    exact ⟨key, before, after, placed, by simpa using offered, by simpa using first⟩
  · rintro ⟨key, before, after, placed, offered, first⟩
    refine ⟨(key, suggestion), List.find?_eq_some_iff_append.mpr ?_, rfl⟩
    exact ⟨by simpa using offered, before, after, placed, by simpa using first⟩

/-- Patterns come before everything that happened. -/
theorem predict_of_chooses (long : shortestTyped ≤ (normalTyped typed).length)
    (chosen : p.Chooses (normalTyped typed) key suggestion) :
    p.predict typed history = some suggestion := by
  have found : p.fromPatterns (normalTyped typed) = some suggestion :=
    fromPatterns_eq_some_iff.mpr ⟨key, chosen⟩
  simp only [predict, found]
  rw [if_neg (by omega)]

theorem Chooses.of_shorter (h : p.Chooses typed key suggestion)
    (grown : typed.toList <+: longer.toList) (offered : Offers longer (key, suggestion))
    (absent : ∀ line ∈ p.patterns.values, lowercase line ≠ typed) :
    p.Chooses longer key suggestion := by
  obtain ⟨before, after, placed, _, first⟩ := h
  refine ⟨before, after, placed, offered, ?_⟩
  intro pattern hm early
  have listed : pattern ∈ p.patterns.entries := by simp [placed, hm]
  have other : lowercase pattern.2 ≠ typed := absent _ (List.mem_map_of_mem listed)
  exact first pattern hm (early.of_longer grown other)

/-- While a text grows towards the key of the pattern that was chosen for it, the suggestion stays,
whatever happened before, if no pattern stands for the text itself. -/
theorem suggestion_stays (p : Predictor) {typed longer key suggestion : String}
    (long : 3 ≤ (normalTyped typed).length)
    (grown : (normalTyped typed).toList <+: (normalTyped longer).toList)
    (chosen : p.Chooses (normalTyped typed) key suggestion)
    (towards : (normalTyped longer).toList <+: (lowercase key).toList)
    (further : lowercase key ≠ normalTyped longer)
    (other : lowercase suggestion ≠ normalTyped longer)
    (absent : ∀ line ∈ p.patterns.values, lowercase line ≠ normalTyped typed) :
    ∀ history later : List String,
      p.predict typed history = some suggestion ∧ p.predict longer later = some suggestion := by
  intro history later
  have still : p.Chooses (normalTyped longer) key suggestion :=
    chosen.of_shorter grown ⟨towards, further, other⟩ absent
  have room : 3 ≤ (normalTyped longer).length := by
    have lengths := grown.length_le
    simp only [String.length_toList] at lengths
    omega
  exact ⟨predict_of_chooses long chosen, predict_of_chooses room still⟩

theorem usual_suggestion_stays :
    usualPredictor.Chooses (normalTyped " NETS") "netstat" "netstat -tuln" ∧
    (normalTyped " NETS").toList <+: (normalTyped "netSta\t").toList ∧
    (normalTyped "netSta\t").toList <+: (lowercase "netstat").toList ∧
    (∀ line ∈ usualPredictor.patterns.values, lowercase line ≠ normalTyped " NETS") ∧
    usualPredictor.predict " NETS" ["find ."] = some "netstat -tuln" ∧
    usualPredictor.predict "netSta\t" ["ping", "git add"] = some "netstat -tuln" := by
  have chosen : usualPredictor.Chooses (normalTyped " NETS") "netstat" "netstat -tuln" :=
    ⟨usualPatterns.take 11, usualPatterns.drop 12, by decide, by decide,
      by decide⟩
  have grown : (normalTyped " NETS").toList <+: (normalTyped "netSta\t").toList := by
    decide
  have towards : (normalTyped "netSta\t").toList <+: (lowercase "netstat").toList := by
    decide
  have absent : ∀ line ∈ usualPredictor.patterns.values, lowercase line ≠ normalTyped " NETS" := by
    decide +kernel
  have stays := suggestion_stays usualPredictor (by decide) grown chosen towards
    (by decide) (by decide) absent
  obtain ⟨before, after⟩ := stays ["find ."] ["ping", "git add"]
  exact ⟨chosen, grown, towards, absent, before, after⟩

end Predictor

end EmulatedShell

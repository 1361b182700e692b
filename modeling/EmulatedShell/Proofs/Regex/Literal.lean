import EmulatedShell.Regex.Match
import EmulatedShell.Regex.Reader
import Mathlib.Data.List.Forall2
import Mathlib.Data.List.Infix

namespace EmulatedShell

/-- The pattern that a text without special characters writes. -/
def Regex.literal (a : Alphabet) (text : List Char) : Regex :=
  .seqAll (text.map fun c => .one a (.code c.toNat))

/-- A character of a pattern and one of a text are not told apart. -/
def Alphabet.Takes (a : Alphabet) (c d : Char) : Prop :=
  (CharTest.code c.toNat).accepts a d.toNat = true

/-- Somewhere in a text stand characters that are not told apart from those of a pattern. -/
def Alphabet.Finds (a : Alphabet) (pattern text : List Char) : Prop :=
  ∃ before found after, text = before ++ found ++ after ∧ List.Forall₂ a.Takes pattern found

variable {a : Alphabet} {b : Builder} {c d : Char} {text pattern : List Char}

namespace Builder

theorem take_of_plain (quiet : b.inner.flags.verbose = false) (plain : isSpecial c = false)
    (rest : List Char) : b.take c rest = .ok (b.pushTest (.code c.toNat), rest) := by
  simp [take, quiet, plain]
  rfl

theorem readAll_of_plain {steps : Nat} (quiet : b.inner.flags.verbose = false)
    (plain : ∀ c ∈ text, isSpecial c = false) (enough : text.length ≤ steps) :
    readAll steps b text = (text.foldl (fun b c => b.pushTest (.code c.toNat)) b).finish true := by
  induction text generalizing steps b with
  | nil => simp [readAll]
  | cons c rest ih =>
    obtain ⟨steps, rfl⟩ := Nat.exists_eq_succ_of_ne_zero (Nat.ne_of_gt (Nat.lt_of_lt_of_le
      (Nat.zero_lt_succ _) enough))
    have first : isSpecial c = false := plain c List.mem_cons_self
    have unclosed : c ≠ ')' := by
      rintro rfl
      exact absurd first (by decide)
    rw [readAll, take_of_plain quiet first]
    · exact ih quiet (fun d hd => plain d (List.mem_cons_of_mem _ hd))
        (Nat.le_of_succ_le_succ enough)
    · exact unclosed

theorem foldl_pushTest (text : List Char) (b : Builder) :
    text.foldl (fun b c => b.pushTest (.code c.toNat)) b =
      { b with inner := { b.inner with
          parts := (text.map fun c =>
            ⟨.one b.inner.flags.alphabet (.code c.toNat), true⟩).reverse ++ b.inner.parts } } := by
  induction text generalizing b with
  | nil => rfl
  | cons c rest ih =>
    rw [List.foldl_cons, ih]
    simp [pushTest, push]

end Builder

/-- A text without special characters is a pattern, and stands for its own characters. -/
theorem Regex.parse_of_plain {text : String} (ignoreCase : Bool)
    (plain : ∀ c ∈ text.toList, isSpecial c = false) :
    Regex.parse ignoreCase text = .ok (.literal ⟨ignoreCase, false⟩ text.toList) := by
  rw [Regex.parse, Builder.readAll_of_plain rfl plain (Nat.le_of_eq String.length_toList),
    Builder.foldl_pushTest]
  simp [Builder.finish, Builder.start, Frame.regex, Frame.choice, literal, Flags.none,
    Flags.alphabet, Function.comp_def]

theorem Regex.run_literal_cons (before after : List Char) (groups : List (Nat × List Char)) :
    (literal a (c :: pattern)).run ⟨⟨before, d :: after⟩, groups⟩ some =
      if (CharTest.code c.toNat).accepts a d.toNat then
        (literal a pattern).run ⟨⟨d :: before, after⟩, groups⟩ some
      else none := by
  change ((Progress.step _ _).bind _) = _
  rw [Progress.step]
  dsimp only
  split <;> rfl

theorem Regex.run_literal_isSome_iff (p : Progress) :
    ((literal a pattern).run p some).isSome = true ↔
      ∃ found after, p.cursor.after = found ++ after ∧ List.Forall₂ a.Takes pattern found := by
  induction pattern generalizing p with
  | nil =>
    have ends : ((literal a []).run p some).isSome = true := rfl
    exact ⟨fun _ => ⟨[], p.cursor.after, rfl, .nil⟩, fun _ => ends⟩
  | cons c pattern ih =>
    obtain ⟨⟨before, after⟩, groups⟩ := p
    cases after with
    | nil =>
      constructor
      · intro h
        cases h
      · rintro ⟨found, after, he, takes⟩
        cases takes with
        | cons first later => cases he
    | cons d after =>
      rw [run_literal_cons]
      split
      next takes =>
        rw [ih]
        constructor
        · rintro ⟨found, rest, he, later⟩
          exact ⟨d :: found, rest, congrArg (d :: ·) he, .cons takes later⟩
        · rintro ⟨found, rest, he, whole⟩
          cases whole with
          | cons first later => exact ⟨_, rest, (List.cons.inj he).2, later⟩
      next refused =>
        constructor
        · intro h
          cases h
        · rintro ⟨found, rest, he, whole⟩
          cases whole with
          | cons first later =>
            obtain ⟨rfl, _⟩ := List.cons.inj he
            exact absurd first refused

theorem Alphabet.finds_cons_iff : a.Finds pattern (d :: text) ↔
    (∃ found after, d :: text = found ++ after ∧ List.Forall₂ a.Takes pattern found) ∨
      a.Finds pattern text := by
  constructor
  · rintro ⟨before, found, after, he, takes⟩
    cases before with
    | nil => exact .inl ⟨found, after, he, takes⟩
    | cons e before => exact .inr ⟨before, found, after, (List.cons.inj he).2, takes⟩
  · rintro (⟨found, after, he, takes⟩ | ⟨before, found, after, rfl, takes⟩)
    · exact ⟨[], found, after, he, takes⟩
    · exact ⟨d :: before, found, after, rfl, takes⟩

theorem exists_mem_of_forall₂ {pattern found : List Char}
    (takes : List.Forall₂ a.Takes pattern found) (hc : c ∈ pattern) : ∃ d ∈ found, a.Takes c d := by
  induction takes with
  | nil => cases hc
  | cons first later ih =>
    rcases List.mem_cons.mp hc with rfl | hc
    · exact ⟨_, List.mem_cons_self, first⟩
    · obtain ⟨d, hd, taken⟩ := ih hc
      exact ⟨d, List.mem_cons_of_mem _ hd, taken⟩

theorem Alphabet.Finds.exists_taken (finds : a.Finds pattern text) (hc : c ∈ pattern) :
    ∃ d ∈ text, a.Takes c d := by
  obtain ⟨before, found, after, rfl, takes⟩ := finds
  obtain ⟨d, hd, taken⟩ := exists_mem_of_forall₂ takes hc
  exact ⟨d, by simp [hd], taken⟩

theorem Regex.foundFrom_literal_iff (before : List Char) :
    (literal a pattern).foundFrom before text = true ↔ a.Finds pattern text := by
  induction text generalizing before with
  | nil =>
    rw [foundFrom, matchesAt, run_literal_isSome_iff]
    constructor
    · rintro ⟨found, after, he, takes⟩
      exact ⟨[], found, after, he, takes⟩
    · rintro ⟨front, found, after, he, takes⟩
      cases front with
      | nil => exact ⟨found, after, he, takes⟩
      | cons => cases he
  | cons d rest ih =>
    rw [foundFrom, Bool.or_eq_true, matchesAt, run_literal_isSome_iff, ih,
      Alphabet.finds_cons_iff]

instance (a : Alphabet) (pattern text : List Char) : Decidable (a.Finds pattern text) :=
  decidable_of_iff _ (Regex.foundFrom_literal_iff [])

theorem Regex.found_literal_iff {text : String} :
    (literal a pattern).found text = true ↔ a.Finds pattern text.toList :=
  foundFrom_literal_iff []

theorem Alphabet.takes_exact_iff {ascii : Bool} : Takes ⟨false, ascii⟩ c d ↔ c = d := by
  simp [Takes, CharTest.accepts, kin, fold, Char.toNat_inj, eq_comm]

theorem Alphabet.finds_exact_iff {ascii : Bool} :
    Finds ⟨false, ascii⟩ pattern text ↔ pattern <:+: text := by
  have exact : ∀ found, List.Forall₂ (Takes ⟨false, ascii⟩) pattern found ↔ pattern = found := by
    intro found
    rw [← List.forall₂_eq_eq_eq]
    constructor
    · exact fun takes => takes.imp fun _ _ => takes_exact_iff.mp
    · exact fun same => same.imp fun _ _ => takes_exact_iff.mpr
  constructor
  · rintro ⟨before, found, after, rfl, takes⟩
    rw [← (exact found).mp takes]
    exact ⟨before, after, rfl⟩
  · rintro ⟨before, after, rfl⟩
    exact ⟨before, pattern, after, rfl, (exact pattern).mpr rfl⟩

end EmulatedShell

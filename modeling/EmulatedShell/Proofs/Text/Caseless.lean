import EmulatedShell.Proofs.Regex.Literal
import EmulatedShell.Proofs.Text.Lines
import EmulatedShell.Proofs.Text.Lowercase
import EmulatedShell.Proofs.Unicode.CaseKin
import EmulatedShell.Proofs.Unicode.SmallLetters

namespace EmulatedShell

/-- The alphabet in which letters that differ in case alone are the same. -/
def anyCase : Alphabet := ⟨true, false⟩

/-- A character has one small form, whatever stands around it. -/
def IsSteady (c : Char) : Prop := c ≠ 'Σ' ∧ c ≠ 'İ'

instance (c : Char) : Decidable (IsSteady c) :=
  inferInstanceAs (Decidable (c ≠ 'Σ' ∧ c ≠ 'İ'))

/-- What a pattern takes of a text is what has the same small form: the text has no letter that is
only kin to one of the pattern, and no dot that comes from a letter where the pattern starts with
one. -/
structure IsUntroubled (pattern text : List Char) : Prop where
  steady : ∀ c ∈ pattern, IsSteady c
  same : ∀ c ∈ pattern, ∀ d ∈ text, anyCase.Takes c d → IsSteady d ∧ lowerChar c = lowerChar d
  dot : pattern.head? = some '\u0307' → 'İ' ∉ text

/-- A pattern that is untroubled by every text. -/
structure IsIndifferent (pattern : List Char) : Prop where
  alone : ∀ c ∈ pattern, ¬SharesCapital (lowerCode c.toNat)
  dot : pattern.head? ≠ some '\u0307'

variable {c d : Char} {pattern text found before after : List Char}

theorem takes_anyCase_iff :
    anyCase.Takes c d ↔ lowerCode d.toNat ∈ caseKin (lowerCode c.toNat) := by
  simp [Alphabet.Takes, CharTest.accepts, Alphabet.kin, Alphabet.fold, anyCase]

theorem takes_anyCase_self (c : Char) : anyCase.Takes c c :=
  takes_anyCase_iff.mpr (mem_caseKin_self _)

theorem lowerBetween_of_steady (steady : IsSteady c) (before after : List Char) :
    lowerBetween before c after = [lowerChar c] := by
  rw [lowerBetween, if_neg steady.1, if_neg steady.2]

theorem lowerAfter_append_of_steady {front : List Char} (steady : ∀ c ∈ front, IsSteady c)
    (before back : List Char) : lowerAfter before (front ++ back) =
      front.map lowerChar ++ lowerAfter (front.reverse ++ before) back := by
  induction front generalizing before with
  | nil => rfl
  | cons c rest ih =>
    have first : IsSteady c := steady c List.mem_cons_self
    rw [List.cons_append, lowerAfter, lowerBetween_of_steady first,
      ih fun d hd => steady d (List.mem_cons_of_mem _ hd)]
    simp

theorem lowerAfter_of_steady (steady : ∀ c ∈ text, IsSteady c) (before : List Char) :
    lowerAfter before text = text.map lowerChar := by
  have whole := lowerAfter_append_of_steady steady before []
  rwa [List.append_nil, lowerAfter, List.append_nil] at whole

theorem fixed_of_mem_lowerBetween (h : d ∈ lowerBetween before c after) :
    IsSteady d ∧ lowerChar d = d := by
  have checked : (['ς', 'σ', 'i', '\u0307'].all fun d => IsSteady d ∧ lowerChar d = d) = true := by
    decide
  have fixed : ∀ d ∈ ['ς', 'σ', 'i', '\u0307'], IsSteady d ∧ lowerChar d = d :=
    fun d hd => of_decide_eq_true (List.all_eq_true.mp checked d hd)
  by_cases steady : IsSteady c
  · obtain rfl : d = lowerChar c := by simpa [lowerBetween_of_steady steady] using h
    refine ⟨⟨?_, ?_⟩, lowerChar_lowerChar c⟩ <;>
      · intro capital
        have again := lowerChar_lowerChar c
        rw [capital] at again
        exact absurd again (by decide)
  · apply fixed
    unfold lowerBetween at h
    split at h
    next =>
      rcases List.mem_singleton.mp h with rfl
      split <;> simp
    next sigma =>
      have dotted : c = 'İ' := by_contra fun dotless => steady ⟨sigma, dotless⟩
      rw [if_pos dotted] at h
      simp only [List.mem_cons, List.not_mem_nil, or_false] at h ⊢
      exact .inr (.inr h)

/-- What is in small letters stays as it is. -/
theorem fixed_of_mem_lowerAfter (h : d ∈ lowerAfter before text) :
    IsSteady d ∧ lowerChar d = d := by
  induction text generalizing before with
  | nil => exact absurd h List.not_mem_nil
  | cons c rest ih =>
    rw [lowerAfter, List.mem_append] at h
    rcases h with first | later
    · exact fixed_of_mem_lowerBetween first
    · exact ih later

theorem map_lowerChar_lowerAfter (before text : List Char) :
    (lowerAfter before text).map lowerChar = lowerAfter before text := by
  have fixed : ∀ d ∈ lowerAfter before text, lowerChar d = id d :=
    fun d hd => (fixed_of_mem_lowerAfter hd).2
  rw [List.map_congr_left fixed, List.map_id]

/-- A small form that stands in a text stands in the small form of that as well. -/
theorem infix_lowerAfter_of_infix (h : lowerAfter before pattern <:+: text) :
    lowerAfter before pattern <:+: lowerAfter [] text := by
  obtain ⟨front, back, rfl⟩ := h
  obtain ⟨lowered, _, ahead⟩ := lowerAfter_append [] front (lowerAfter before pattern ++ back)
  rw [List.append_assoc, ahead,
    lowerAfter_append_of_steady fun d hd => (fixed_of_mem_lowerAfter hd).1,
    map_lowerChar_lowerAfter, ← List.append_assoc]
  exact ⟨lowered, _, rfl⟩

/-- The small form of a character starts with one of its kin, which only the dot of a capital i
follows. -/
theorem lowerBetween_cases (before : List Char) (c : Char) (after : List Char) :
    ∃ x, x.toNat ∈ caseKin (lowerCode c.toNat) ∧
      (lowerBetween before c after = [x] ∨
        c = 'İ' ∧ lowerBetween before c after = [x, '\u0307']) := by
  by_cases sigma : c = 'Σ'
  · subst sigma
    have both : 'σ'.toNat ∈ caseKin (lowerCode 'Σ'.toNat) ∧
        'ς'.toNat ∈ caseKin (lowerCode 'Σ'.toNat) := by
      decide
    rw [lowerBetween, if_pos rfl]
    split
    · exact ⟨'ς', both.2, .inl rfl⟩
    · exact ⟨'σ', both.1, .inl rfl⟩
  · by_cases dotted : c = 'İ'
    · subst dotted
      exact ⟨'i', by decide, .inr ⟨rfl, rfl⟩⟩
    · refine ⟨lowerChar c, ?_, .inl (lowerBetween_of_steady ⟨sigma, dotted⟩ before after)⟩
      rw [toNat_lowerChar]
      exact mem_caseKin_self _

theorem takes_of_lowerChar (kin : (lowerChar c).toNat ∈ caseKin (lowerCode d.toNat)) :
    anyCase.Takes c d := by
  rw [toNat_lowerChar] at kin
  exact takes_anyCase_iff.mpr (mem_caseKin_symm kin)

theorem eq_dot_of_lowerChar (h : lowerChar c = '\u0307') : c = '\u0307' := by
  have code : lowerCode c.toNat = '\u0307'.toNat := by rw [← toNat_lowerChar, h]
  have avoided : ∀ run ∈ capitalRuns, run.avoids ('\u0307'.toNat, '\u0307'.toNat) = true := by
    decide +kernel
  have same : lowerCode c.toNat = c.toNat :=
    lowerCode_eq_self_of_avoids avoided (Nat.le_of_eq code.symm) (Nat.le_of_eq code)
  exact Char.toNat_inj.mp (same.symm.trans code)

namespace IsUntroubled

theorem map_lowerChar_eq (untroubled : IsUntroubled pattern text)
    (takes : List.Forall₂ anyCase.Takes pattern found) (part : found ⊆ text) :
    (∀ d ∈ found, IsSteady d) ∧ found.map lowerChar = pattern.map lowerChar := by
  have all : ∀ c ∈ pattern, ∀ d ∈ found, anyCase.Takes c d →
      IsSteady d ∧ lowerChar c = lowerChar d :=
    fun c hc d hd => untroubled.same c hc d (part hd)
  clear untroubled part
  induction takes with
  | nil => exact ⟨List.forall_mem_nil _, rfl⟩
  | cons first later ih =>
    obtain ⟨steady, same⟩ := all _ List.mem_cons_self _ List.mem_cons_self first
    obtain ⟨others, rest⟩ := ih fun c hc d hd =>
      all c (List.mem_cons_of_mem _ hc) d (List.mem_cons_of_mem _ hd)
    exact ⟨List.forall_mem_cons.mpr ⟨steady, others⟩,
      (congrArg₂ List.cons same rest.symm).symm⟩

theorem infix_of_finds (untroubled : IsUntroubled pattern text)
    (finds : anyCase.Finds pattern text) : pattern.map lowerChar <:+: lowerAfter [] text := by
  obtain ⟨front, found, back, rfl, takes⟩ := finds
  obtain ⟨steady, same⟩ := untroubled.map_lowerChar_eq takes (by simp)
  obtain ⟨lowered, _, ahead⟩ := lowerAfter_append [] front (found ++ back)
  rw [List.append_assoc, ahead, lowerAfter_append_of_steady steady, same, ← List.append_assoc]
  exact ⟨lowered, _, rfl⟩

/-- Where the small form of a text goes on with that of the pattern, the text goes on with what the
pattern takes. -/
theorem takes_of_starts
    (same : ∀ c ∈ pattern, ∀ d ∈ text, anyCase.Takes c d → IsSteady d ∧ lowerChar c = lowerChar d)
    (starts : pattern.map lowerChar <+: lowerAfter before text) :
    ∃ found after, text = found ++ after ∧ List.Forall₂ anyCase.Takes pattern found := by
  induction pattern generalizing before text with
  | nil => exact ⟨[], text, rfl, .nil⟩
  | cons c pattern ih =>
    cases text with
    | nil => simp [lowerAfter] at starts
    | cons d rest =>
      obtain ⟨x, kin, small⟩ := lowerBetween_cases before d rest
      rw [lowerAfter, List.map_cons] at starts
      have first : lowerChar c = x := by
        rcases small with small | ⟨_, small⟩ <;>
          · rw [small] at starts
            exact (List.cons_prefix_cons.mp starts).1
      have takes : anyCase.Takes c d := takes_of_lowerChar (first ▸ kin)
      have steady := (same c List.mem_cons_self d List.mem_cons_self takes).1
      rw [lowerBetween_of_steady steady] at starts
      obtain ⟨found, after, rfl, later⟩ := ih
        (fun c hc d hd => same c (List.mem_cons_of_mem _ hc) d (List.mem_cons_of_mem _ hd))
        (List.cons_prefix_cons.mp starts).2
      exact ⟨d :: found, after, rfl, .cons takes later⟩

theorem of_cons (untroubled : IsUntroubled pattern (d :: text)) : IsUntroubled pattern text :=
  ⟨untroubled.steady, fun c hc e he => untroubled.same c hc e (List.mem_cons_of_mem _ he),
    fun starts hd => untroubled.dot starts (List.mem_cons_of_mem _ hd)⟩

theorem finds_of_infix (untroubled : IsUntroubled pattern text)
    (holds : pattern.map lowerChar <:+: lowerAfter before text) :
    anyCase.Finds pattern text := by
  induction text generalizing before with
  | nil =>
    obtain rfl : pattern = [] := by simpa [lowerAfter] using holds
    exact ⟨[], [], [], rfl, .nil⟩
  | cons d rest ih =>
    rw [Alphabet.finds_cons_iff]
    by_cases starts : pattern.map lowerChar <+: lowerAfter before (d :: rest)
    · exact .inl (takes_of_starts untroubled.same starts)
    · -- Otherwise it is held further on: no pattern starts with the dot of a capital i.
      right
      obtain ⟨x, _, small⟩ := lowerBetween_cases before d rest
      rw [lowerAfter] at holds starts
      rcases small with small | ⟨dotted, small⟩
      · rw [small] at holds starts
        exact ih untroubled.of_cons ((List.infix_cons_iff.mp holds).resolve_left starts)
      · rw [small] at holds starts
        rcases List.infix_cons_iff.mp ((List.infix_cons_iff.mp holds).resolve_left starts) with
          within | later
        · cases pattern with
          | nil => exact absurd (List.nil_prefix) starts
          | cons c pattern =>
            have first := (List.cons_prefix_cons.mp within).1
            exact absurd (dotted ▸ List.mem_cons_self)
              (untroubled.dot (congrArg some (eq_dot_of_lowerChar first)))
        · exact ih untroubled.of_cons later

/-- In an untroubled text a pattern is found just where the small form of the text holds its own. -/
theorem finds_iff (untroubled : IsUntroubled pattern text) :
    anyCase.Finds pattern text ↔ lowerAfter [] pattern <:+: lowerAfter [] text := by
  rw [lowerAfter_of_steady untroubled.steady]
  exact ⟨untroubled.infix_of_finds, untroubled.finds_of_infix⟩

end IsUntroubled

theorem asciiCodes_without_kin :
    ((List.range 128).all fun n => decide (lowerCode n < 128) &&
      (caseKin n).all fun k => k == n || decide (128 ≤ k)) = true := by
  decide

theorem IsUntroubled.of_ascii (ofPattern : ∀ c ∈ pattern, c.toNat < 128)
    (ofText : ∀ d ∈ text, d.toNat < 128) : IsUntroubled pattern text := by
  have checked : ∀ n < 128, lowerCode n < 128 ∧ ∀ k ∈ caseKin n, k = n ∨ 128 ≤ k := by
    intro n hn
    have both := List.all_eq_true.mp asciiCodes_without_kin n (List.mem_range.mpr hn)
    simpa [List.all_eq_true] using both
  have steady : ∀ {c : Char}, c.toNat < 128 → IsSteady c := by
    intro c small
    constructor <;>
      · rintro rfl
        exact absurd small (by decide)
  refine ⟨fun c hc => steady (ofPattern c hc), ?_, ?_⟩
  · intro c hc d hd takes
    have smallC := (checked c.toNat (ofPattern c hc)).1
    have smallD := (checked d.toNat (ofText d hd)).1
    have same := ((checked _ smallC).2 _ (takes_anyCase_iff.mp takes)).resolve_right
      (Nat.not_le.mpr smallD)
    exact ⟨steady (ofText d hd), by rw [lowerChar, lowerChar, same]⟩
  · intro starts
    exact absurd (ofPattern _ (List.mem_of_head? starts)) (by decide)

theorem steady_of_alone (alone : ¬SharesCapital (lowerCode c.toNat)) : IsSteady c := by
  have shared : SharesCapital (lowerCode 'Σ'.toNat) ∧ SharesCapital (lowerCode 'İ'.toNat) := by
    decide
  constructor
  · rintro rfl
    exact alone shared.1
  · rintro rfl
    exact alone shared.2

theorem takes_of_alone (alone : ¬SharesCapital (lowerCode c.toNat)) (takes : anyCase.Takes c d) :
    lowerCode d.toNat = lowerCode c.toNat :=
  (mem_caseKin_of_not_shared alone).mp (takes_anyCase_iff.mp takes)

theorem IsIndifferent.untroubled (indifferent : IsIndifferent pattern) (text : List Char) :
    IsUntroubled pattern text := by
  refine ⟨fun c hc => steady_of_alone (indifferent.alone c hc), ?_,
    fun starts => absurd starts indifferent.dot⟩
  intro c hc d _ takes
  have alone := indifferent.alone c hc
  have same := takes_of_alone alone takes
  exact ⟨steady_of_alone (same ▸ alone), by rw [lowerChar, lowerChar, same]⟩

theorem forall₂_takes_self (text : List Char) : List.Forall₂ anyCase.Takes text text :=
  List.forall₂_same.mpr fun c _ => takes_anyCase_self c

theorem exists_taken_ne (shared : SharesCapital (lowerCode c.toNat)) (x : Char) :
    ∃ d, anyCase.Takes c d ∧ IsSteady d ∧ lowerChar d ≠ x ∧ isBlank d = false := by
  obtain ⟨k, kin, differs, own, valid, nonblank⟩ := exists_kin_ne shared x.toNat
  have code : (Char.ofNat k).toNat = k := by
    rw [Char.ofNat, dif_pos valid]
    rfl
  have small : lowerCode (Char.ofNat k).toNat = k := by rw [code, own]
  refine ⟨Char.ofNat k, takes_anyCase_iff.mpr (small.symm ▸ kin), ?_, ?_, by rwa [isBlank, code]⟩
  · constructor <;>
      · intro he
        rw [← code, he] at own
        exact absurd own (by decide)
  · rintro rfl
    rw [toNat_lowerChar, small] at differs
    exact differs rfl

/-- A text that differs in a steady character of another small form does not hold the small form of
the whole. -/
theorem not_infix_of_ne {front back : List Char} (steady : IsSteady d)
    (differs : ∀ more, lowerBetween (front.reverse ++ []) c back ≠ lowerChar d :: more) :
    ¬lowerAfter [] (front ++ c :: back) <:+: lowerAfter [] (front ++ d :: back) := by
  intro holds
  have lengths := holds.length_le
  simp only [lowerAfter_length, List.length_append, List.length_cons, List.count_append,
    List.count_cons, beq_iff_eq, if_neg steady.2] at lengths
  have plain : c ≠ 'İ' := by
    intro dotted
    rw [if_pos dotted] at lengths
    omega
  -- Nothing is longer than the other, so that both agree place by place.
  have same := holds.eq_of_length (by
    simp only [lowerAfter_length, List.length_append, List.length_cons, List.count_append,
      List.count_cons, beq_iff_eq, if_neg steady.2, if_neg plain])
  obtain ⟨one, lengthOne, cutOne⟩ := lowerAfter_append [] front (c :: back)
  obtain ⟨two, lengthTwo, cutTwo⟩ := lowerAfter_append [] front (d :: back)
  rw [cutOne, cutTwo] at same
  have heads := List.append_inj_right same (lengthOne.trans lengthTwo.symm)
  obtain ⟨x, _, small⟩ := lowerBetween_cases (front.reverse ++ []) c back
  have single := small.resolve_right fun dotted => plain dotted.1
  rw [lowerAfter, lowerAfter, single, lowerBetween_of_steady steady] at heads
  exact differs [] (single.trans (congrArg (· :: []) (List.cons.inj heads).1))

/-- A letter in place of another of the same capital is taken for it, but has a small form of its
own. -/
theorem told_apart_of_shared (shared : SharesCapital (lowerCode c.toNat))
    (front back : List Char) : ∃ d, isBlank d = false ∧
      anyCase.Finds (front ++ c :: back) (front ++ d :: back) ∧
      ¬lowerAfter [] (front ++ c :: back) <:+: lowerAfter [] (front ++ d :: back) := by
  obtain ⟨x, _, small⟩ := lowerBetween_cases (front.reverse ++ []) c back
  obtain ⟨d, takes, steady, differs, nonblank⟩ := exists_taken_ne shared x
  have whole : List.Forall₂ anyCase.Takes (front ++ c :: back) (front ++ d :: back) :=
    List.rel_append (forall₂_takes_self front) (.cons takes (forall₂_takes_self back))
  refine ⟨d, nonblank, ⟨[], front ++ d :: back, [], by simp, whole⟩, not_infix_of_ne steady ?_⟩
  intro more he
  rcases small with small | ⟨_, small⟩ <;>
    · rw [small] at he
      exact differs (List.cons.inj he).1.symm

theorem told_apart_of_dot {back : List Char}
    (alone : ∀ c ∈ '\u0307' :: back, ¬SharesCapital (lowerCode c.toNat)) :
    ¬anyCase.Finds ('\u0307' :: back) ('İ' :: back) ∧
      lowerAfter [] ('\u0307' :: back) <:+: lowerAfter [] ('İ' :: back) := by
  constructor
  · rintro ⟨before, found, after, he, takes⟩
    have lengths := congrArg List.length he
    simp only [List.length_append, ← takes.length_eq, List.length_cons] at lengths
    have start : before = [] := List.length_eq_zero_iff.mp (by omega)
    subst start
    cases takes with
    | cons first later =>
      obtain ⟨rfl, _⟩ := List.cons.inj he
      exact absurd (takes_of_alone (alone _ List.mem_cons_self) first) (by decide)
  · have steady : ∀ c ∈ '\u0307' :: back, IsSteady c := fun c hc => steady_of_alone (alone c hc)
    have small : lowerChar '\u0307' = '\u0307' := by decide
    have dotted : lowerBetween [] 'İ' back = ['i', '\u0307'] := rfl
    rw [lowerAfter_of_steady steady, lowerAfter, dotted,
      lowerAfter_of_steady fun c hc => steady c (List.mem_cons_of_mem _ hc), List.map_cons, small]
    exact ⟨['i'], [], by simp⟩

theorem exists_told_apart (whole : ∀ c ∈ pattern, isLineBreak c = false)
    (troubled : ¬IsIndifferent pattern) : ∃ text ≠ [], (∀ c ∈ text, isLineBreak c = false) ∧
      ¬(anyCase.Finds pattern text ↔ lowerAfter [] pattern <:+: lowerAfter [] text) := by
  by_cases alone : ∀ c ∈ pattern, ¬SharesCapital (lowerCode c.toNat)
  · have dot : pattern.head? = some '\u0307' := by
      by_contra dot
      exact troubled ⟨alone, dot⟩
    obtain ⟨back, rfl⟩ := List.head?_eq_some_iff.mp dot
    obtain ⟨unfound, holds⟩ := told_apart_of_dot alone
    refine ⟨'İ' :: back, List.cons_ne_nil _ _, ?_, fun agree => unfound (agree.mpr holds)⟩
    exact List.forall_mem_cons.mpr ⟨by decide, (List.forall_mem_cons.mp whole).2⟩
  · push Not at alone
    obtain ⟨c, hc, shared⟩ := alone
    obtain ⟨front, back, rfl⟩ := List.append_of_mem hc
    obtain ⟨d, nonblank, finds, unheld⟩ := told_apart_of_shared shared front back
    refine ⟨front ++ d :: back, by simp, ?_, fun agree => unheld (agree.mp finds)⟩
    obtain ⟨wholeFront, wholeBack⟩ := List.forall_mem_append.mp whole
    refine List.forall_mem_append.mpr ⟨wholeFront, List.forall_mem_cons.mpr ⟨?_, ?_⟩⟩
    · rw [Bool.eq_false_iff]
      intro isBreak
      rw [isBlank_of_isLineBreak isBreak] at nonblank
      cases nonblank
    · exact (List.forall_mem_cons.mp wholeBack).2

theorem unfound_of_break (isBreak : isLineBreak c = true) (hc : c ∈ pattern)
    (whole : ∀ d ∈ text, isLineBreak d = false) :
    ¬anyCase.Finds pattern text ∧ ¬lowerAfter [] pattern <:+: lowerAfter [] text := by
  have blank : isBlank c = true := isBlank_of_isLineBreak isBreak
  have keeps : lowerCode c.toNat = c.toNat := lowerCode_of_blank blank
  have absent : c ∉ text := by
    intro ht
    rw [whole c ht] at isBreak
    cases isBreak
  constructor
  · intro finds
    obtain ⟨d, hd, takes⟩ := finds.exists_taken hc
    have same := takes_of_alone (keeps.symm ▸ not_shared_of_blank blank) takes
    rw [keeps] at same
    have blankLetter : isBlank d = true := blank_of_lowerCode (same ▸ blank)
    rw [lowerCode_of_blank blankLetter] at same
    exact absent (Char.toNat_inj.mp same ▸ hd)
  · intro holds
    have there := holds.subset ((mem_lowerAfter_of_blank blank).mpr hc)
    exact absent ((mem_lowerAfter_of_blank blank).mp there)

end EmulatedShell

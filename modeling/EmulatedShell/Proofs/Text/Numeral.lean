import EmulatedShell.Proofs.Text.Integer
import Mathlib.Data.List.Induction

namespace EmulatedShell

/-- The sign before a number as it is written. -/
inductive Sign where
  | absent
  | plus
  | minus

namespace Sign

/-- The characters of a sign. -/
def chars : Sign → List Char
  | absent => []
  | plus => ['+']
  | minus => ['-']

/-- A minus stands before what is not positive, a plus or nothing before what is not negative. -/
def Suits : Sign → Int → Prop
  | minus, number => number ≤ 0
  | _, number => 0 ≤ number

instance (sign : Sign) (number : Int) : Decidable (sign.Suits number) :=
  match sign with
  | absent | plus => inferInstanceAs (Decidable (0 ≤ number))
  | minus => inferInstanceAs (Decidable (number ≤ 0))

/-- A sign before the absolute value of a number. -/
def apply : Sign → Nat → Int
  | minus, value => -value
  | _, value => value

/-- Whether a sign makes a number negative. -/
def negates : Sign → Bool
  | minus => true
  | _ => false

end Sign

/-- Digits of any scripts that write a number, some zeros before it. -/
def Writes (digits : List Char) (number : Nat) : Prop :=
  ∃ zeros, digits.map digitValue =
    (List.replicate zeros '0' ++ Nat.toDigits 10 number).map digitValue

/-- A text that starts with a number: after blanks and a sign that suits it come its digits, not too
many of them, and then something else. -/
structure Spelling (number : Int) where
  blanks : List Char
  sign : Sign
  digits : List Char
  rest : List Char
  blank : ∀ c ∈ blanks, isBlank c = true
  suits : sign.Suits number
  writes : Writes digits number.natAbs
  short : digits.length ≤ 4300
  ends : ∀ c ∈ rest.head?, isDigit c = false

/-- The text that is spelled. -/
def Spelling.text {number : Int} (w : Spelling number) : String :=
  String.ofList (w.blanks ++ (w.sign.chars ++ (w.digits ++ w.rest)))

variable {c : Char} {digits rest text : List Char} {sign : Sign} {number : Int} {n : Nat}

theorem Sign.apply_natAbs (suits : sign.Suits number) : sign.apply number.natAbs = number := by
  cases sign <;> simp only [Suits] at suits <;> simp only [apply] <;> omega

theorem Sign.natAbs_apply (sign : Sign) (n : Nat) : (sign.apply n).natAbs = n := by
  cases sign <;> simp [apply]

theorem Sign.suits_apply (sign : Sign) (n : Nat) : sign.Suits (sign.apply n) := by
  cases sign <;> simp [Suits, apply]

theorem digitValueIn_lt {ranges : List (Nat × Nat)} {value : Nat}
    (h : digitValueIn ranges n = some value) : value < 10 := by
  induction ranges with
  | nil => cases h
  | cons range ranges ih =>
    unfold digitValueIn at h
    split at h
    next => cases h
    next =>
      split at h
      next =>
        cases Option.some.inj h
        exact Nat.mod_lt _ (by decide)
      next => exact ih h

theorem digitValue_digitChar (h : n < 10) : digitValue n.digitChar = some n := by
  have digit : n.digitChar.isDigit = true := by simpa [Nat.isDigit_digitChar] using h
  rw [digitValue_of_isDigit digit]
  exact congrArg some (Nat.toNat_digitChar_sub_48_of_lt_ten h)

theorem digitsValue_concat (digits : List Char) (c : Char) :
    digitsValue (digits ++ [c]) = 10 * digitsValue digits + (digitValue c).getD 0 := by
  rw [digitsValue, List.foldl_concat, ← digitsValue]

theorem digitsValue_congr {others : List Char}
    (same : digits.map digitValue = others.map digitValue) :
    digitsValue digits = digitsValue others := by
  have values : ∀ digits : List Char, digitsValue digits =
      (digits.map digitValue).foldl (fun value digit => 10 * value + digit.getD 0) 0 :=
    fun digits => by rw [List.foldl_map, digitsValue]
  rw [values, values, same]

namespace Writes

theorem plain {zeros : Nat} (hc : c ∈ List.replicate zeros '0' ++ Nat.toDigits 10 n) :
    c.isDigit = true := by
  rcases List.mem_append.mp hc with zero | digit
  · rw [List.eq_of_mem_replicate zero]
    decide
  · exact isDigit_of_mem_toDigits c digit

theorem digitsValue_eq (h : Writes digits n) : digitsValue digits = n := by
  obtain ⟨zeros, same⟩ := h
  rw [digitsValue_congr same, digitsValue_eq_ofDigitChars fun c => plain, Nat.ofDigitChars_append,
    Nat.ofDigitChars_replicate_zero, Nat.mul_zero, Nat.ofDigitChars_ten_toDigits]

theorem isDigit (h : Writes digits n) : ∀ c ∈ digits, isDigit c = true := by
  intro c hc
  obtain ⟨zeros, same⟩ := h
  have listed : digitValue c ∈
      (List.replicate zeros '0' ++ Nat.toDigits 10 n).map digitValue :=
    same ▸ List.mem_map_of_mem hc
  obtain ⟨d, hd, value⟩ := List.mem_map.mp listed
  rw [EmulatedShell.isDigit, ← value]
  exact isDigit_of_isDigit (plain hd)

theorem ne_nil (h : Writes digits n) : digits ≠ [] := by
  rintro rfl
  obtain ⟨zeros, same⟩ := h
  have length := congrArg List.length same
  have positive : 0 < (Nat.toDigits 10 n).length := Nat.length_toDigits_pos
  simp only [List.map_nil, List.length_nil, List.length_map, List.length_append] at length
  omega

theorem concat (h : Writes digits n) {value : Nat} (digit : digitValue c = some value) :
    Writes (digits ++ [c]) (10 * n + value) := by
  obtain ⟨zeros, same⟩ := h
  have small : value < 10 := digitValueIn_lt digit
  have last : [c].map digitValue = (Nat.toDigits 10 value).map digitValue := by
    rw [Nat.toDigits_of_lt_base small, List.map_singleton, List.map_singleton,
      digitValue_digitChar small, digit]
  rcases Nat.eq_zero_or_pos n with rfl | positive
  · refine ⟨zeros + 1, ?_⟩
    rw [List.map_append, same, last, ← List.map_append, Nat.toDigits_zero, Nat.mul_zero,
      Nat.zero_add, List.replicate_succ']
  · refine ⟨zeros, ?_⟩
    rw [List.map_append, same, last, ← List.map_append, List.append_assoc,
      Nat.toDigits_append_toDigits (by decide) positive small]

end Writes

/-- Every run of digits writes the number that is read off it. -/
theorem writes_digitsValue (run : ∀ c ∈ digits, isDigit c = true) (nonempty : digits ≠ []) :
    Writes digits (digitsValue digits) := by
  induction digits using List.reverseRecOn with
  | nil => exact absurd rfl nonempty
  | append_singleton digits c ih =>
    obtain ⟨value, digit⟩ := Option.isSome_iff_exists.mp (run c (by simp))
    rw [digitsValue_concat, digit, Option.getD_some]
    by_cases first : digits = []
    · subst first
      have small : value < 10 := digitValueIn_lt digit
      refine ⟨0, ?_⟩
      have single : 10 * digitsValue [] + value = value := Nat.zero_add value
      rw [single, Nat.toDigits_of_lt_base small]
      simp [digit, digitValue_digitChar small]
    · exact (ih (fun d hd => run d (List.mem_append_left _ hd)) first).concat digit

theorem not_blank_of_head_signed (run : ∀ c ∈ digits, isDigit c = true) (nonempty : digits ≠ []) :
    ∀ c ∈ (sign.chars ++ (digits ++ rest)).head?, isBlank c = false := by
  obtain ⟨first, later, rfl⟩ := List.exists_cons_of_ne_nil nonempty
  intro c hc
  cases sign with
  | absent =>
    obtain rfl := Option.some.inj hc
    exact not_blank_of_isDigit (run _ List.mem_cons_self)
  | plus =>
    obtain rfl := Option.some.inj hc
    decide
  | minus =>
    obtain rfl := Option.some.inj hc
    decide

theorem takeSign_signed (run : ∀ c ∈ digits, isDigit c = true) (nonempty : digits ≠ []) :
    takeSign (sign.chars ++ (digits ++ rest)) = (sign.negates, digits ++ rest) := by
  obtain ⟨first, later, rfl⟩ := List.exists_cons_of_ne_nil nonempty
  cases sign with
  | absent =>
    have digit := run first List.mem_cons_self
    have unsigned : first ≠ '-' ∧ first ≠ '+' := by
      constructor <;> (rintro rfl; revert digit; decide)
    simp [Sign.chars, takeSign, Sign.negates, unsigned]
  | plus => rfl
  | minus => rfl

/-- What stands before the digits is a sign or nothing. -/
theorem exists_sign (text : List Char) :
    ∃ sign : Sign, text = sign.chars ++ (takeSign text).2 ∧ (takeSign text).1 = sign.negates := by
  unfold takeSign
  split
  next => exact ⟨.minus, rfl, rfl⟩
  next => exact ⟨.plus, rfl, rfl⟩
  next => exact ⟨.absent, rfl, rfl⟩

theorem Sign.apply_eq (sign : Sign) (n : Nat) :
    (if sign.negates then -(n : Int) else n) = sign.apply n := by
  cases sign <;> rfl

namespace Spelling

theorem takeSign_text (w : Spelling number) :
    takeSign (w.text.toList.dropWhile isBlank) = (w.sign.negates, w.digits ++ w.rest) := by
  have run := w.writes.isDigit
  have nonempty := w.writes.ne_nil
  rw [text, String.toList_ofList, dropWhile_append_stop w.blank
    (not_blank_of_head_signed run nonempty), takeSign_signed run nonempty]

theorem leadingInteger_text (w : Spelling number) :
    leadingInteger w.text.toList = some number := by
  have short : w.digits.length ≤ digitLimit := w.short
  rw [leadingInteger_of_run _ w.takeSign_text w.writes.isDigit w.writes.ne_nil w.ends,
    if_pos short, Sign.apply_eq, w.writes.digitsValue_eq, Sign.apply_natAbs w.suits]

end Spelling

/-- A text from which a number is read spells it. -/
theorem exists_spelling (h : leadingInteger text = some number) :
    ∃ w : Spelling number, w.text = String.ofList text := by
  obtain ⟨sign, split, negative⟩ := exists_sign (text.dropWhile isBlank)
  have whole := List.takeWhile_append_dropWhile (p := isBlank) (l := text)
  have parts := List.takeWhile_append_dropWhile (p := isDigit)
    (l := (takeSign (text.dropWhile isBlank)).2)
  have run : ∀ c ∈ (takeSign (text.dropWhile isBlank)).2.takeWhile isDigit, isDigit c = true :=
    fun c hc => List.mem_takeWhile_imp hc
  simp only [leadingInteger, negative, Sign.apply_eq] at h
  split at h
  next => cases h
  next bounds =>
    rw [Bool.or_eq_true, not_or, List.isEmpty_iff, decide_eq_true_eq, Nat.not_lt] at bounds
    obtain rfl := Option.some.inj h
    refine ⟨⟨text.takeWhile isBlank, sign,
      (takeSign (text.dropWhile isBlank)).2.takeWhile isDigit,
      (takeSign (text.dropWhile isBlank)).2.dropWhile isDigit,
      fun c hc => List.mem_takeWhile_imp hc, sign.suits_apply _, ?_, bounds.2, ?_⟩, ?_⟩
    · rw [Sign.natAbs_apply]
      exact writes_digitsValue run bounds.1
    · intro c hc
      have stop := List.head?_dropWhile_not isDigit (takeSign (text.dropWhile isBlank)).2
      rw [Option.mem_def.mp hc] at stop
      exact stop
    · rw [Spelling.text]
      dsimp only
      rw [parts, ← split, whole]

theorem parseInt_eq_of_spelling (w : Spelling number) (default : Int) :
    parseInt (some w.text) default = number := by
  rw [parseInt, Option.bind_some, w.leadingInteger_text, Option.getD_some]

/-- The number is read that a text starts with, and a text that starts with none gives the default.
A zero may have either sign. -/
theorem parseInt_reads_spellings :
    (∀ (number : Int) (w : Spelling number) (default : Int),
      parseInt (some w.text) default = number) ∧
    ∀ (text : Option String) (default : Int),
      (∃ number, ∃ w : Spelling number, text = some w.text) ∨ parseInt text default = default := by
  refine ⟨fun _ w default => parseInt_eq_of_spelling w default, fun text default => ?_⟩
  cases text with
  | none => exact .inr rfl
  | some text =>
    cases read : leadingInteger text.toList with
    | none =>
      right
      rw [parseInt, Option.bind_some, read, Option.getD_none]
    | some number =>
      obtain ⟨w, spelled⟩ := exists_spelling read
      rw [String.ofList_toList] at spelled
      exact .inl ⟨number, w, congrArg some spelled.symm⟩

theorem parseInt_reads_mixed_scripts :
    ∃ w : Spelling (-42), w.text = "\u3000\t-0٤2x" ∧ parseInt (some "\u3000\t-0٤2x") 7 = -42 := by
  have blank : ['\u3000', '\t'].all isBlank = true := by decide
  have ends : ∀ c ∈ ['x'].head?, isDigit c = false := by
    intro c hc
    obtain rfl := Option.some.inj hc
    decide +kernel
  let w : Spelling (-42) :=
    { blanks := ['\u3000', '\t']
      sign := .minus
      digits := ['0', '٤', '2']
      rest := ['x']
      blank := List.all_eq_true.mp blank
      suits := by decide
      writes := ⟨1, by decide⟩
      short := by decide
      ends := ends }
  have written : w.text = "\u3000\t-0٤2x" := rfl
  exact ⟨w, written, written ▸ parseInt_reads_spellings.1 (-42) w 7⟩

/-- A zero with a minus before it is a number, although a minus belongs to the negative ones. -/
theorem parseInt_reads_negated_zero :
    ¬∀ (text : Option String) (default : Int),
      (∃ number, ∃ w : Spelling number, (w.sign = .minus → number < 0) ∧ text = some w.text) ∨
        parseInt text default = default := by
  intro exact
  have zero : parseInt (some "-0") 7 = 0 := by decide
  rcases exact (some "-0") 7 with ⟨number, w, strict, spelled⟩ | unread
  · obtain same : "-0" = w.text := Option.some.inj spelled
    have nothing : number = 0 := by
      have read := parseInt_eq_of_spelling w 7
      rw [← same, zero] at read
      exact read.symm
    have signed : (takeSign ("-0".toList.dropWhile isBlank)).1 = w.sign.negates := by
      rw [same, w.takeSign_text]
    have minus : w.sign = .minus := by
      cases sign : w.sign with
      | minus => rfl
      | _ =>
        rw [sign] at signed
        exact absurd signed (by decide)
    have := strict minus
    omega
  · rw [zero] at unread
    cases unread

end EmulatedShell

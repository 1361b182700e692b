import EmulatedShell.Proofs.Calls
import EmulatedShell.Proofs.Flags
import Std.Data.String.ToInt

namespace EmulatedShell

/-- A number of seconds brought between one and those of a day. -/
def boundedInterval (seconds : Int) : Int := min (max seconds 1) 86400

/-- The interval that a leading option asks for, and without one two seconds. -/
def leadingInterval : List String → Int
  | "-n" :: rest => boundedInterval (parseInt rest.head? 2)
  | _ => 2

/-- The interval that the first option asks for, wherever it stands, and without one two seconds. -/
def firstInterval (args : List String) : Int := boundedInterval (parseInt (tokenAfter "-n" args) 2)

/-- What remains of the tokens without a leading option and its value. -/
def watchedTokens : List String → List String
  | "-n" :: rest => rest.drop 1
  | args => args

/-- The tokens that remain as one text, without blanks and one layer of quotes around it. -/
def watchedText (args : List String) : String := unquote (trim (joinWith " " (watchedTokens args)))

/-- What is printed of a command that runs at an interval. -/
def intervalText (seconds : Int) (watched : String) : String :=
  "Every " ++ toString seconds ++ ".0s: " ++ watched ++
    "\n\n[Command output would refresh here every " ++ toString seconds ++ " seconds]"

/-- The tokens are taken for a command that runs at an interval, unless they hold none. -/
structure Invocation.Watches (i : Invocation) (args : List String) (seconds : Int) : Prop where
  idle : watchedText args = "" → i.Gives "watch" args "watch: missing command" 1
  busy : watchedText args ≠ "" → i.Gives "watch" args (intervalText seconds (watchedText args)) 0

/-- The interval is read from a place at which a token of the watched command stands. -/
def CountsTwice (args : List String) : Prop :=
  ∃ place, (Command.mk "watch" args "").valuePlace "-n" = some place ∧ place < args.length ∧
    args.length - (watchedTokens args).length ≤ place

variable {i : Invocation} {args : List String} {seconds other : Int}

theorem boundedInterval_bounds (seconds : Int) :
    1 ≤ boundedInterval seconds ∧ boundedInterval seconds ≤ 86400 := by
  rw [boundedInterval]
  omega

theorem watchedTokens_of_leading (h : args.head? = some "-n") :
    watchedTokens args = args.drop 2 := by
  obtain ⟨rest, rfl⟩ := List.head?_eq_some_iff.mp h
  rfl

theorem watchedTokens_of_not_leading (h : args.head? ≠ some "-n") : watchedTokens args = args := by
  unfold watchedTokens
  split
  next => exact absurd rfl h
  next => rfl

theorem leadingInterval_of_leading (h : args.head? = some "-n") :
    leadingInterval args = firstInterval args := by
  obtain ⟨rest, rfl⟩ := List.head?_eq_some_iff.mp h
  rw [leadingInterval, firstInterval, tokenAfter_cons]

theorem leadingInterval_of_not_leading (h : args.head? ≠ some "-n") : leadingInterval args = 2 := by
  unfold leadingInterval
  split
  next => exact absurd rfl h
  next => rfl

theorem firstInterval_of_not_mem (absent : "-n" ∉ args) : firstInterval args = 2 := by
  rw [firstInterval, tokenAfter_of_not_mem absent]
  rfl

theorem firstInterval_eq_iff : firstInterval args = leadingInterval args ↔
    args.head? = some "-n" ∨ "-n" ∉ args ∨ firstInterval args = 2 := by
  by_cases leading : args.head? = some "-n"
  · exact iff_of_true (leadingInterval_of_leading leading).symm (.inl leading)
  · rw [leadingInterval_of_not_leading leading, or_iff_right leading]
    exact (or_iff_right_of_imp firstInterval_of_not_mem).symm

theorem intervalText_inj {watched : String} :
    intervalText seconds watched = intervalText other watched ↔ seconds = other := by
  constructor
  · intro same
    have lengths := congrArg String.length same
    simp only [intervalText, String.length_append] at lengths
    have chars := congrArg String.toList same
    simp only [intervalText, String.toList_append, List.append_assoc, List.append_cancel_left_eq]
      at chars
    have numerals := List.append_inj_left chars (by
      rw [String.length_toList, String.length_toList]
      omega)
    exact Int.repr_injective (String.toList_injective numerals)
  · rintro rfl
    rfl

theorem watchInterval_eq (i : Invocation) (args : List String) :
    watchInterval (i.calling "watch" args) = firstInterval args := by
  rw [watchInterval, Command.intFlag_eq, firstInterval, boundedInterval]
  rfl

theorem watchedCommand_eq (i : Invocation) (args : List String) :
    watchedCommand (i.calling "watch" args) = watchedText args := by
  have given : (i.calling "watch" args).args = args := rfl
  rw [watchedCommand, given, watchedText]
  by_cases leading : args.head? = some "-n"
  · rw [if_pos leading, watchedTokens_of_leading leading]
  · rw [if_neg leading, watchedTokens_of_not_leading leading]

theorem watch_watches (i : Invocation) (args : List String) :
    i.Watches args (firstInterval args) where
  idle := by
    intro empty
    apply Invocation.gives_of_plain (builtinUtilities_of_lookup rfl)
    simp only [watch, watchedCommand_eq, if_pos empty, Reply.missing, Reply.outcome_fail]
    rfl
  busy := by
    intro given
    apply Invocation.gives_of_plain (builtinUtilities_of_lookup rfl)
    simp only [watch, watchedCommand_eq, watchInterval_eq, if_neg given, Reply.outcome_ok,
      intervalText]

theorem Invocation.Watches.interval_eq_iff (h : i.Watches args seconds) :
    i.Watches args other ↔ watchedText args = "" ∨ seconds = other := by
  constructor
  · intro h'
    by_cases empty : watchedText args = ""
    · exact .inl empty
    · exact .inr (intervalText_inj.mp ((h.busy empty).unique (h'.busy empty)).1)
  · rintro (empty | rfl)
    · exact ⟨h.idle, fun given => absurd empty given⟩
    · exact h

theorem countsTwice_iff :
    CountsTwice args ↔ (tokenAfter "-n" args).isSome = true ∧ args.head? ≠ some "-n" := by
  by_cases present : "-n" ∈ args
  · obtain ⟨front, rest, he, first⟩ := List.eq_append_cons_of_mem present
    have place : (Command.mk "watch" args "").valuePlace "-n" = some (front.length + 1) :=
      Command.valuePlace_of_split he first
    have within : front.length + 1 < args.length ↔ (tokenAfter "-n" args).isSome = true := by
      rw [he, tokenAfter_of_split first]
      cases rest <;> simp
    simp only [CountsTwice, place, Option.some.injEq, exists_eq_left', within]
    apply and_congr_right
    intro given
    have long := within.mpr given
    by_cases leading : args.head? = some "-n"
    · have start : front = [] := by
        cases front with
        | nil => rfl
        | cons token front =>
          rw [he] at leading
          exact absurd (Option.some.inj leading) fun same => first (same ▸ List.mem_cons_self)
      rw [start, List.length_nil] at long ⊢
      rw [watchedTokens_of_leading leading, List.length_drop]
      exact iff_of_false (by omega) (absurd leading)
    · rw [watchedTokens_of_not_leading leading]
      exact iff_of_true (by omega) leading
  · have absent : (Command.mk "watch" args "").valuePlace "-n" = none :=
      Command.valuePlace_of_not_mem present
    simp [CountsTwice, absent, tokenAfter_of_not_mem present]

/-- The interval comes from the first option wherever it stands, even if that belongs to the watched
command. It is the one that a leading option asks for when no other option is taken for it. -/
theorem watch_takes_first_interval (i : Invocation) (args : List String) :
    (1 ≤ firstInterval args ∧ firstInterval args ≤ 86400) ∧
    i.Watches args (firstInterval args) ∧
    (firstInterval args = leadingInterval args ↔
      args.head? = some "-n" ∨ "-n" ∉ args ∨ firstInterval args = 2) ∧
    (i.Watches args (leadingInterval args) ↔
      watchedText args = "" ∨ firstInterval args = leadingInterval args) ∧
    (CountsTwice args ↔ (tokenAfter "-n" args).isSome = true ∧ args.head? ≠ some "-n") :=
  ⟨boundedInterval_bounds _, watch_watches i args, firstInterval_eq_iff,
    (watch_watches i args).interval_eq_iff, countsTwice_iff⟩

/-- The number of lines to show of a file is taken for an interval. -/
theorem watch_takes_foreign_interval :
    ¬∀ (i : Invocation) (args : List String), i.Watches args (leadingInterval args) := by
  intro own
  have read := watch_watches (beside "notes.txt" "tea") ["tail", "-n", "5", "notes.txt"]
  have apart : watchedText ["tail", "-n", "5", "notes.txt"] ≠ "" ∧
      firstInterval ["tail", "-n", "5", "notes.txt"] ≠
        leadingInterval ["tail", "-n", "5", "notes.txt"] := by
    decide
  exact (read.interval_eq_iff.mp (own _ _)).elim apart.1 apart.2

end EmulatedShell

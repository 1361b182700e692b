import EmulatedShell.Regex.Reader
import Mathlib.Tactic.SplitIfs

namespace EmulatedShell

/-- The reasons for which reading a pattern can break off. -/
def Fault.OfPattern : Fault → Prop
  | .repetitionTooLarge | .twoAlphabets => True
  | .tooManyDigits count => 4300 < count
  | _ => False

/-- A reading breaks off only for a reason that patterns have. -/
def Tame {α : Type} (x : Reading α) : Prop :=
  ∀ reason, x = .error (.fault reason) → reason.OfPattern

variable {α β : Type}

@[simp]
theorem tame_ok (a : α) : Tame (.ok a) := fun _ h => nomatch h

@[simp]
theorem tame_pure (a : α) : Tame (pure a) := tame_ok a

@[simp]
theorem tame_malformed : Tame (malformed : Reading α) := fun _ h => nomatch h

theorem tame_bind {x : Reading α} {f : α → Reading β} (hx : Tame x) (hf : ∀ a, Tame (f a)) :
    Tame (x >>= f) := by
  intro reason h
  cases hr : x with
  | error fault =>
    rw [hr] at h
    cases h
    exact hx reason hr
  | ok a =>
    rw [hr] at h
    exact hf a reason h

theorem takeHex_tame (count : Nat) (text : List Char) : Tame (takeHex count text) := by
  unfold takeHex
  dsimp only
  split
  · exact tame_ok _
  · exact tame_malformed

theorem takeNamed_tame (text : List Char) : Tame (takeNamed text) := by
  unfold takeNamed
  split
  · dsimp only
    split
    · exact tame_ok _
    · exact tame_malformed
  · exact tame_malformed

theorem takeCode_tame (letter : Char) (rest : List Char) : Tame (takeCode letter rest) := by
  unfold takeCode
  split
  · exact tame_ok _
  · split_ifs
    · exact takeHex_tame 2 rest
    · exact takeHex_tame 4 rest
    · exact takeHex_tame 8 rest
    · exact takeNamed_tame rest
    · exact tame_malformed
    · exact tame_ok _

theorem octalCode_tame (digits : List Char) : Tame (octalCode digits) := by
  unfold octalCode
  split
  · exact tame_malformed
  · exact tame_ok _

theorem takeItemEscape_tame (letter : Char) (rest : List Char) :
    Tame (takeItemEscape letter rest) := by
  unfold takeItemEscape
  split
  · exact tame_ok _
  · split_ifs
    · exact tame_ok _
    · exact tame_bind (octalCode_tame _) fun _ => tame_pure _
    · exact tame_bind (takeCode_tame letter rest) fun _ => tame_pure _

theorem takeItem_tame (text : List Char) : Tame (takeItem text) := by
  unfold takeItem
  split
  · exact takeItemEscape_tame _ _
  · exact tame_malformed
  · exact tame_malformed
  · exact tame_ok _

theorem takeItems_tame (steps : Nat) (items : List SetItem) (text : List Char) :
    Tame (takeItems steps items text) := by
  induction steps generalizing items text with
  | zero => exact tame_malformed
  | succ steps ih =>
    cases text with
    | nil => exact tame_malformed
    | cons c rest =>
      unfold takeItems
      split
      · exact tame_pure _
      · refine tame_bind (takeItem_tame _) fun taken => ?_
        obtain ⟨item, rest⟩ := taken
        dsimp only
        split
        · exact tame_pure _
        · refine tame_bind (takeItem_tame _) fun taken => ?_
          obtain ⟨bound, rest⟩ := taken
          dsimp only
          split
          · split
            · exact tame_malformed
            · exact ih _ _
          · exact tame_malformed
        · exact ih _ _

theorem takeSet_tame (text : List Char) : Tame (takeSet text) := by
  unfold takeSet
  dsimp only
  refine tame_bind (takeItems_tame _ _ _) fun taken => ?_
  obtain ⟨items, rest⟩ := taken
  dsimp only
  split
  · exact tame_pure _
  · exact tame_pure _

theorem takeDropped_tame (added dropped : Flags) (some : Bool) (text : List Char) :
    Tame (takeDropped added dropped some text) := by
  induction text generalizing dropped some with
  | nil => exact tame_malformed
  | cons c rest ih =>
    unfold takeDropped
    split_ifs
    · exact tame_malformed
    · exact tame_ok _
    · split
      · split
        · exact tame_malformed
        · exact ih _ _
      · exact tame_malformed

theorem takeFlags_tame (added : Flags) (some : Bool) (text : List Char) :
    Tame (takeFlags added some text) := by
  induction text generalizing added some with
  | nil => exact tame_malformed
  | cons c rest ih =>
    unfold takeFlags
    split_ifs
    · exact tame_ok _
    · exact tame_malformed
    · exact tame_ok _
    · exact tame_malformed
    · exact takeDropped_tame _ _ _ _
    · split
      · dsimp only
        split
        · exact tame_malformed
        · exact ih _ _
      · exact tame_malformed

theorem roundCount_tame (digits : List Char) : Tame (roundCount digits) := by
  unfold roundCount
  split_ifs with long large
  · intro reason h
    cases h
    exact long
  · intro reason h
    cases h
    trivial
  · exact tame_ok _

theorem boundsOf_tame (low high : List Char) : Tame (boundsOf low high) := by
  have upper : ∀ least, Tame (if high.isEmpty then pure (least, none) else do
      let most ← roundCount high
      if most < least then malformed else pure (least, some most)) := by
    intro least
    split
    · exact tame_pure _
    · refine tame_bind (roundCount_tame high) fun most => ?_
      split
      · exact tame_malformed
      · exact tame_pure _
  unfold boundsOf
  dsimp only
  split
  · exact tame_bind (tame_pure 0) upper
  · exact tame_bind (roundCount_tame low) upper

theorem skipComment_tame (text : List Char) : Tame (skipComment text) := by
  fun_induction skipComment text with
  | case1 => exact tame_malformed
  | case2 => exact tame_malformed
  | case3 _ _ ih => exact ih
  | case4 => exact tame_ok _
  | case5 _ _ _ _ _ ih => exact ih

theorem skipLine_tame (text : List Char) : Tame (skipLine text) := by
  fun_induction skipLine text with
  | case1 => exact tame_ok _
  | case2 => exact tame_malformed
  | case3 _ _ ih => exact ih
  | case4 => exact tame_ok _
  | case5 _ _ _ _ _ ih => exact ih

theorem takeUntil_tame (ending : Char) (text : List Char) : Tame (takeUntil ending text) := by
  unfold takeUntil
  split
  · exact tame_ok _
  · exact tame_malformed

namespace Builder

variable (b : Builder)

theorem bar_tame : Tame b.bar := by
  unfold bar
  split
  · exact tame_malformed
  · exact tame_ok _

theorem openGroup_tame (name : Option String) : Tame (b.openGroup name) := by
  unfold openGroup
  dsimp only
  split
  · exact tame_ok _
  · split
    · exact tame_malformed
    · exact tame_ok _

theorem pushAgain_tame (index : Nat) : Tame (b.pushAgain index) := by
  unfold pushAgain
  split
  · exact tame_ok _
  · exact tame_malformed

theorem openWhether_tame (index : Nat) (byNumber : Bool) :
    Tame (b.openWhether index byNumber) := by
  unfold openWhether
  split
  · exact tame_ok _
  · exact tame_malformed

theorem addFlags_tame (flags : Flags) : Tame (b.addFlags flags) := by
  unfold addFlags
  split
  · exact tame_ok _
  · exact tame_malformed

theorem repeatLast_tame (greed : Greed) (least : Nat) (most : Option Nat) :
    Tame (b.repeatLast greed least most) := by
  unfold repeatLast
  split
  · exact tame_ok _
  · exact tame_malformed

theorem finish_tame (closed : Bool) : Tame (b.finish closed) := by
  unfold finish
  split_ifs
  · exact tame_malformed
  · intro reason h
    cases h
    trivial
  · exact tame_malformed
  · exact tame_ok _

theorem takeGreed_tame (least : Nat) (most : Option Nat) (rest : List Char) :
    Tame (b.takeGreed least most rest) := by
  unfold takeGreed
  split <;> exact tame_bind (b.repeatLast_tame _ _ _) fun _ => tame_pure _

theorem takeBrace_tame (rest : List Char) : Tame (b.takeBrace rest) := by
  unfold takeBrace
  split
  · exact tame_pure _
  · split
    · exact tame_malformed
    · refine tame_bind (boundsOf_tame _ _) fun bounds => ?_
      exact b.takeGreed_tame _ _ _

theorem takeDigits_tame (first : Char) (rest : List Char) : Tame (b.takeDigits first rest) := by
  have group : ∀ more rest, Tame (do return (← b.pushAgain (valueIn 10 (first :: more)), rest) :
      Reading (Builder × List Char)) :=
    fun _ _ => tame_bind (b.pushAgain_tame _) fun _ => tame_pure _
  rcases rest with _ | ⟨second, _ | ⟨third, rest⟩⟩
  · exact group _ _
  · exact group _ _
  · unfold takeDigits
    dsimp only
    split
    · exact tame_bind (octalCode_tame _) fun _ => tame_pure _
    · exact group _ _

theorem takeEscape_tame (letter : Char) (rest : List Char) :
    Tame (b.takeEscape letter rest) := by
  unfold takeEscape
  dsimp only
  split
  · exact tame_pure _
  · split_ifs
    · exact tame_pure _
    · exact tame_pure _
    · exact tame_pure _
    · exact tame_pure _
    · exact tame_pure _
    · exact b.takeDigits_tame letter rest
    · exact tame_bind (takeCode_tame letter rest) fun _ => tame_pure _

theorem takeCondition_tame (rest : List Char) : Tame (b.takeCondition rest) := by
  unfold takeCondition
  refine tame_bind (takeUntil_tame _ _) fun taken => ?_
  obtain ⟨name, rest⟩ := taken
  dsimp only
  split
  · split
    · exact tame_bind (b.openWhether_tame _ _) fun _ => tame_pure _
    · exact tame_malformed
  · split
    · split
      · exact tame_malformed
      · exact tame_bind (b.openWhether_tame _ _) fun _ => tame_pure _
    · exact tame_malformed

theorem takeNamedGroup_tame (rest : List Char) : Tame (b.takeNamedGroup rest) := by
  unfold takeNamedGroup
  split
  · refine tame_bind (takeUntil_tame _ _) fun taken => ?_
    dsimp only
    split
    · exact tame_bind (b.openGroup_tame _) fun _ => tame_pure _
    · exact tame_malformed
  · refine tame_bind (takeUntil_tame _ _) fun taken => ?_
    dsimp only
    split
    · exact tame_bind (b.pushAgain_tame _) fun _ => tame_pure _
    · exact tame_malformed
  · exact tame_malformed

theorem takeExtension_tame (rest : List Char) : Tame (b.takeExtension rest) := by
  unfold takeExtension
  split
  case h_1 => exact b.takeNamedGroup_tame _
  case h_3 => exact tame_bind (skipComment_tame _) fun _ => tame_pure _
  case h_8 => exact b.takeCondition_tame _
  case h_10 =>
    refine tame_bind (takeFlags_tame _ _ _) fun taken => ?_
    dsimp only
    split
    · exact tame_bind (b.addFlags_tame _) fun _ => tame_pure _
    · exact tame_pure _
  all_goals exact tame_ok _

theorem takeSpecial_tame (c : Char) (rest : List Char) : Tame (b.takeSpecial c rest) := by
  unfold takeSpecial
  dsimp only
  split
  · exact tame_pure _
  · exact tame_pure _
  · exact tame_pure _
  · exact tame_bind b.bar_tame fun _ => tame_pure _
  · exact b.takeGreed_tame _ _ _
  · exact b.takeGreed_tame _ _ _
  · exact b.takeGreed_tame _ _ _
  · exact b.takeBrace_tame _
  · exact tame_bind (takeSet_tame _) fun _ => tame_pure _
  · split
    · exact b.takeEscape_tame _ _
    · exact tame_malformed
  · split
    · exact b.takeExtension_tame _
    · exact tame_bind (b.openGroup_tame _) fun _ => tame_pure _

theorem take_tame (c : Char) (rest : List Char) : Tame (b.take c rest) := by
  unfold take
  split_ifs
  · exact tame_pure _
  · exact tame_bind (skipLine_tame _) fun _ => tame_pure _
  · exact b.takeSpecial_tame c rest
  · exact tame_pure _

/-- Each step of reading is tame, and so is the end. -/
theorem readAll_tame (steps : Nat) (text : List Char) : Tame (readAll steps b text) := by
  fun_induction readAll steps b text with
  | case1 => exact finish_tame _ _
  | case2 => exact tame_malformed
  | case3 _ _ _ _ _ ih => exact ih
  | case4 => exact finish_tame _ _
  | case5 _ _ _ _ _ ih => exact tame_bind (take_tame _ _ _) fun _ => ih _ _

end Builder

/-- Reading a pattern breaks off only for a count of rounds that is too large or too long, or for
two alphabets. -/
theorem Regex.parse_tame (ignoreCase : Bool) (text : String) :
    Tame (Regex.parse ignoreCase text) :=
  Builder.readAll_tame _ _ _

end EmulatedShell

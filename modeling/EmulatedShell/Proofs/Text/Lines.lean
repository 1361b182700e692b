import EmulatedShell.Text.Lines
import Mathlib.Data.List.Basic

namespace EmulatedShell

/-- A single break, or a carriage return and a line feed, which are not taken apart. -/
inductive EndsLine : List Char → List Char → Prop
  | both {rest : List Char} : EndsLine ['\r', '\n'] rest
  | single {c : Char} {rest : List Char} (isBreak : isLineBreak c = true)
      (alone : c = '\r' → rest.head? ≠ some '\n') : EndsLine [c] rest

/-- A text consists of lines without breaks, each followed by an end of line. Only the last may lack
one, unless it is empty. -/
inductive IsCut : List Char → List (List Char) → Prop
  | nothing : IsCut [] []
  | last {line : List Char} (nonempty : line ≠ []) (whole : ∀ c ∈ line, isLineBreak c = false) :
      IsCut line [line]
  | ended {line ending rest : List Char} {lines : List (List Char)}
      (whole : ∀ c ∈ line, isLineBreak c = false) (ends : EndsLine ending rest)
      (later : IsCut rest lines) : IsCut (line ++ ending ++ rest) (line :: lines)

/-- A text consists of these lines. -/
def HasLines (content : String) (lines : List String) : Prop :=
  IsCut content.toList (lines.map String.toList)

variable {c : Char} {line ending rest text : List Char} {lines : List (List Char)}

theorem isBlank_of_isLineBreak (h : isLineBreak c = true) : isBlank c = true := by
  have breaks : (['\n', '\r', '\x0b', '\x0c', '\x1c', '\x1d', '\x1e', '\x85', '\u2028',
      '\u2029'].all isBlank) = true := by
    decide
  exact List.all_eq_true.mp breaks c (List.contains_iff_mem.mp h)

theorem lineChars_of_break (isBreak : isLineBreak c = true)
    (alone : c = '\r' → rest.head? ≠ some '\n') : lineChars (c :: rest) = [] :: lineChars rest := by
  rw [lineChars, if_pos isBreak]
  rintro more rfl rfl
  exact alone rfl rfl

theorem lineChars_of_plain (plain : isLineBreak c = false) : lineChars (c :: rest) =
    (c :: (lineChars rest).headD []) :: (lineChars rest).tail := by
  rw [lineChars, if_neg (Bool.eq_false_iff.mp plain)]
  · cases lineChars rest with
    | nil => rfl
    | cons line lines => rfl
  · rintro more rfl rfl
    exact absurd plain (by decide)

theorem EndsLine.lineChars_eq (ends : EndsLine ending rest) :
    lineChars (ending ++ rest) = [] :: lineChars rest := by
  cases ends with
  | both => rfl
  | single isBreak alone => exact lineChars_of_break isBreak alone

theorem lineChars_append (whole : ∀ c ∈ line, isLineBreak c = false)
    (h : lineChars text = [] :: lines) : lineChars (line ++ text) = line :: lines := by
  induction line with
  | nil => exact h
  | cons c line ih =>
    have later := ih fun d hd => whole d (List.mem_cons_of_mem _ hd)
    rw [List.cons_append, lineChars_of_plain (whole c List.mem_cons_self), later]
    rfl

theorem lineChars_of_whole (nonempty : line ≠ []) (whole : ∀ c ∈ line, isLineBreak c = false) :
    lineChars line = [line] := by
  induction line with
  | nil => exact absurd rfl nonempty
  | cons c line ih =>
    rw [lineChars_of_plain (whole c List.mem_cons_self)]
    by_cases last : line = []
    · rw [last]
      rfl
    · rw [ih last fun d hd => whole d (List.mem_cons_of_mem _ hd)]
      rfl

theorem IsCut.lineChars_eq (cut : IsCut text lines) : lineChars text = lines := by
  induction cut with
  | nothing => rfl
  | last nonempty whole => exact lineChars_of_whole nonempty whole
  | ended whole ends later ih =>
    rw [List.append_assoc]
    exact lineChars_append whole (ends.lineChars_eq.trans (congrArg _ ih))

theorem IsCut.whole (cut : IsCut text lines) :
    ∀ line ∈ lines, ∀ c ∈ line, isLineBreak c = false := by
  induction cut with
  | nothing => exact List.forall_mem_nil _
  | last nonempty whole => exact List.forall_mem_singleton.mpr whole
  | ended whole ends later ih => exact List.forall_mem_cons.mpr ⟨whole, ih⟩

theorem IsCut.cons (plain : isLineBreak c = false) (cut : IsCut text lines) :
    IsCut (c :: text) ((c :: lines.headD []) :: lines.tail) := by
  have longer : ∀ {line : List Char}, (∀ d ∈ line, isLineBreak d = false) →
      ∀ d ∈ c :: line, isLineBreak d = false :=
    fun whole => List.forall_mem_cons.mpr ⟨plain, whole⟩
  cases cut with
  | nothing => exact .last (List.cons_ne_nil _ _) (longer fun _ h => absurd h List.not_mem_nil)
  | last nonempty whole => exact .last (List.cons_ne_nil _ _) (longer whole)
  | ended whole ends later => exact .ended (longer whole) ends later

theorem isCut_lineChars (text : List Char) : IsCut text (lineChars text) := by
  have onward : ∀ {c : Char} {rest : List Char}, ¬isLineBreak c = true →
      IsCut rest (lineChars rest) → IsCut (c :: rest) (lineChars (c :: rest)) := by
    intro c rest plain cut
    rw [lineChars_of_plain (Bool.eq_false_iff.mpr plain)]
    exact cut.cons (Bool.eq_false_iff.mpr plain)
  induction text using lineChars.induct with
  | case1 => exact .nothing
  | case2 rest ih => exact .ended (List.forall_mem_nil _) .both ih
  | case3 c rest pair isBreak ih =>
    have alone : c = '\r' → rest.head? ≠ some '\n' := by
      intro hc hn
      obtain ⟨more, hm⟩ := List.head?_eq_some_iff.mp hn
      exact pair more hc hm
    rw [lineChars_of_break isBreak alone]
    exact .ended (List.forall_mem_nil _) (.single isBreak alone) ih
  | case4 c rest _ plain _ ih => exact onward plain ih
  | case5 c rest _ plain _ _ _ ih => exact onward plain ih

theorem whole_of_mem_linesOf {content line : String} (hl : line ∈ linesOf content) :
    ∀ c ∈ line.toList, isLineBreak c = false := by
  obtain ⟨chars, hc, rfl⟩ := List.mem_map.mp hl
  rw [String.toList_ofList]
  exact (isCut_lineChars content.toList).whole chars hc

theorem linesOf_of_whole {text : List Char} (nonempty : text ≠ [])
    (whole : ∀ c ∈ text, isLineBreak c = false) :
    linesOf (String.ofList text) = [String.ofList text] := by
  rw [linesOf, String.toList_ofList, lineChars_of_whole nonempty whole]
  rfl

/-- Every text consists of lines in just one way. -/
theorem hasLines_iff {content : String} {lines : List String} :
    HasLines content lines ↔ linesOf content = lines := by
  have back : ∀ lines : List String, (lines.map String.toList).map String.ofList = lines := by
    simp [Function.comp_def]
  constructor
  · intro cut
    rw [linesOf, cut.lineChars_eq, back]
  · rintro rfl
    rw [HasLines, linesOf, List.map_map]
    have same : String.toList ∘ String.ofList = id := funext fun _ => String.toList_ofList
    rw [same, List.map_id]
    exact isCut_lineChars content.toList

end EmulatedShell

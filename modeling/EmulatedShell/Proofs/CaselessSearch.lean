import EmulatedShell.Proofs.Search
import EmulatedShell.Proofs.Text.Caseless

namespace EmulatedShell

/-- The lines in which a pattern is found where case does not matter. -/
def linesMatching (pattern content : String) : List String :=
  (linesOf content).filter fun line => anyCase.Finds pattern.toList line.toList

/-- The lines that hold a pattern when both are put into small letters. -/
def linesHolding (pattern content : String) : List String :=
  (linesOf content).filter fun line => (lowercase pattern).toList <:+: (lowercase line).toList

variable {i : Invocation} {args : List String} {pattern content : String}

theorem SearchesFile.selects_matching (literal : IsLiteral pattern)
    (searches : SearchesFile i args pattern content) (caseless : "-i" ∈ args) {name : String}
    (known : builtinUtilities.get? name = some (.risky (grep true))) :
    i.Selects name args (linesMatching pattern content) := by
  have selected := searches.selects_as_pattern literal known
  rwa [decide_eq_true caseless] at selected

theorem SearchesFile.selects_holding (literal : IsLiteral pattern)
    (searches : SearchesFile i args pattern content) (caseless : "-i" ∈ args) :
    i.Selects "fgrep" args (linesHolding pattern content) := by
  have known : builtinUtilities.get? "fgrep" = some (.risky (grep false)) :=
    builtinUtilities_of_lookup rfl
  have selected := searches.selects_as_text literal known
  have lowered : holdsText true pattern =
      fun line => contains (lowercase pattern) (lowercase line) := rfl
  rw [decide_eq_true caseless, lowered] at selected
  rwa [filter_eq_of_iff fun line => contains_iff_infix] at selected

theorem mem_linesMatching {line : String} : line ∈ linesMatching pattern content ↔
    line ∈ linesOf content ∧ anyCase.Finds pattern.toList line.toList := by
  rw [linesMatching, List.mem_filter, decide_eq_true_eq]

theorem mem_linesHolding {line : String} : line ∈ linesHolding pattern content ↔
    line ∈ linesOf content ∧ lowerAfter [] pattern.toList <:+: lowerAfter [] line.toList := by
  rw [linesHolding, List.mem_filter, decide_eq_true_eq, lowercase, lowercase, String.toList_ofList,
    String.toList_ofList]

theorem linesMatching_eq_linesHolding (agree : ∀ line ∈ linesOf content,
      (anyCase.Finds pattern.toList line.toList ↔
        lowerAfter [] pattern.toList <:+: lowerAfter [] line.toList)) :
    linesMatching pattern content = linesHolding pattern content := by
  apply List.filter_congr
  intro line hl
  rw [lowercase, lowercase, String.toList_ofList, String.toList_ofList, decide_eq_decide]
  exact agree line hl

/-- The two ways to search without regard to case select the same lines of every text just when no
letter of the pattern shares its capital and it does not start with a dot above, or when it holds
an end of line. -/
theorem linesMatching_eq_iff :
    (∀ content, linesMatching pattern content = linesHolding pattern content) ↔
      (∃ c ∈ pattern.toList, isLineBreak c = true) ∨ IsIndifferent pattern.toList := by
  constructor
  · intro agree
    by_contra apart
    push Not at apart
    obtain ⟨whole, troubled⟩ := apart
    obtain ⟨text, nonempty, unbroken, differ⟩ :=
      exists_told_apart (fun c hc => Bool.eq_false_iff.mpr (whole c hc)) troubled
    have single : String.ofList text ∈ linesOf (String.ofList text) := by
      rw [linesOf_of_whole nonempty unbroken]
      exact List.mem_singleton_self _
    have found : String.ofList text ∈ linesMatching pattern (String.ofList text) ↔ _ :=
      mem_linesMatching
    rw [agree, mem_linesHolding, String.toList_ofList] at found
    exact differ ((and_congr_right_iff.mp found single).symm)
  · rintro (⟨c, hc, isBreak⟩ | indifferent) content
    · apply linesMatching_eq_linesHolding
      intro line hl
      obtain ⟨unfound, unheld⟩ := unfound_of_break isBreak hc (whole_of_mem_linesOf hl)
      exact iff_of_false unfound unheld
    · apply linesMatching_eq_linesHolding
      intro line _
      exact (indifferent.untroubled line.toList).finds_iff

/-- Without regard to case, a search for a literal pattern compares letters by their capitals if the
pattern is read as one, and whole texts in small letters if it is not. The two agree on lines in
which no letter is troubled, and on all texts just for some patterns. -/
theorem caseless_searches_agree_iff (literal : IsLiteral pattern) :
    (∀ i args content, SearchesFile i args pattern content → "-i" ∈ args →
      i.Selects "grep" args (linesMatching pattern content) ∧
      i.Selects "egrep" args (linesMatching pattern content) ∧
      i.Selects "fgrep" args (linesHolding pattern content)) ∧
    (∀ content, (∀ line ∈ linesOf content, IsUntroubled pattern.toList line.toList) →
      linesMatching pattern content = linesHolding pattern content) ∧
    ((∀ content, linesMatching pattern content = linesHolding pattern content) ↔
      (∃ c ∈ pattern.toList, isLineBreak c = true) ∨ IsIndifferent pattern.toList) := by
  refine ⟨?_, ?_, linesMatching_eq_iff⟩
  · intro i args content searches caseless
    exact ⟨searches.selects_matching literal caseless (builtinUtilities_of_lookup rfl),
      searches.selects_matching literal caseless (builtinUtilities_of_lookup rfl),
      searches.selects_holding literal caseless⟩
  · intro content untroubled
    exact linesMatching_eq_linesHolding fun line hl => (untroubled line hl).finds_iff

/-- A call to find a word in one file without regard to case. -/
def caselessCall (pattern file : String) : List String := ["-i", pattern, file]

theorem caseless_searches_agree_on_tea :
    IsLiteral "tea" ∧
    (beside "notes.txt" "TEA\r\ncoffee").Selects "fgrep" (caselessCall "tea" "notes.txt") ["TEA"] ∧
    (∀ line ∈ linesOf "TEA\r\ncoffee", IsUntroubled "tea".toList line.toList) ∧
    linesMatching "tea" "TEA\r\ncoffee" = linesHolding "tea" "TEA\r\ncoffee" := by
  have literal : IsLiteral "tea" :=
    .of_head (by decide) (by decide) (by decide)
  have searches : SearchesFile (beside "notes.txt" "TEA\r\ncoffee")
      (caselessCall "tea" "notes.txt") "tea" "TEA\r\ncoffee" :=
    ⟨by decide, "notes.txt", [], by decide, beside_read _ _⟩
  have untroubled : ∀ line ∈ linesOf "TEA\r\ncoffee",
      IsUntroubled "tea".toList line.toList := by
    have ascii : ("tea".toList.all fun c => decide (c.toNat < 128)) = true ∧
        ((linesOf "TEA\r\ncoffee").all fun line =>
          line.toList.all fun d => decide (d.toNat < 128)) = true := by
      decide
    simp only [List.all_eq_true, decide_eq_true_eq] at ascii
    exact fun line hl => .of_ascii ascii.1 (ascii.2 line hl)
  obtain ⟨select, agree, _⟩ := caseless_searches_agree_iff literal
  obtain ⟨_, _, selected⟩ := select _ _ _ searches (by decide)
  have lines : linesHolding "tea" "TEA\r\ncoffee" = ["TEA"] := by decide
  rw [lines] at selected
  exact ⟨literal, selected, untroubled, agree _ untroubled⟩

/-- The small form of a word that ends in a sigma is not held by that of a longer word. -/
theorem caseless_searches_disagree : ¬∀ (i : Invocation) (pattern content : String),
    IsLiteral pattern → ∀ args, SearchesFile i args pattern content → "-i" ∈ args →
      ∃ lines, ∀ name ∈ ["grep", "egrep", "fgrep"], i.Selects name args lines := by
  intro agree
  have literal : IsLiteral "ΟΔΟΣ" :=
    .of_head (by decide) (by decide) (by decide)
  have searches : SearchesFile (beside "signs.txt" "ΟΔΟΣΗΜΟ") (caselessCall "ΟΔΟΣ" "signs.txt")
      "ΟΔΟΣ" "ΟΔΟΣΗΜΟ" :=
    ⟨by decide, "signs.txt", [], by decide, beside_read _ _⟩
  obtain ⟨lines, selected⟩ := agree _ _ _ literal _ searches (by decide)
  have known : builtinUtilities.get? "grep" = some (.risky (grep true)) :=
    builtinUtilities_of_lookup rfl
  have found := searches.selects_matching literal (by decide) known
  have unheld := searches.selects_holding literal (by decide)
  have grepFinds := (selected "grep" (by decide)).empty_iff found
  have fgrepFinds := (selected "fgrep" (by decide)).empty_iff unheld
  have matching : linesMatching "ΟΔΟΣ" "ΟΔΟΣΗΜΟ" = ["ΟΔΟΣΗΜΟ"] := by decide
  have holding : linesHolding "ΟΔΟΣ" "ΟΔΟΣΗΜΟ" = [] := by decide
  rw [matching] at grepFinds
  exact absurd (grepFinds.mp (fgrepFinds.mpr holding)) (List.cons_ne_nil _ _)

end EmulatedShell

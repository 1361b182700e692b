import EmulatedShell.Command
import EmulatedShell.Proofs.Text.Split
import EmulatedShell.Proofs.Text.Trimming

namespace EmulatedShell

/-- A text that can stand as the last token of a command line; `isLastToken_iff` says that no other
can. -/
structure IsLastToken (token : String) : Prop where
  nonempty : token ≠ ""
  free : ' ' ∉ token.toList
  ends : ∀ c ∈ token.toList.getLast?, isBlank c = false

namespace Command

theorem parse_of_blank {line : String} (h : trim line = "") : parse line = ⟨"", [], line⟩ := by
  simp [parse, h]

theorem parse_of_not_blank {line : String} (h : trim line ≠ "") :
    ∃ name args, split ' ' (trim line) = name :: args ∧ parse line = ⟨name, args, trim line⟩ := by
  cases hs : split ' ' (trim line) with
  | nil => exact absurd (List.map_eq_nil_iff.mp hs) (splitChars_ne_nil ' ' _)
  | cons name args => exact ⟨name, args, rfl, by simp [parse, h, hs]⟩

theorem parse_raw (line : String) :
    (parse line).raw = if trim line = "" then line else trim line := by
  split
  next h => rw [parse_of_blank h]
  next h =>
    obtain ⟨name, args, _, hp⟩ := parse_of_not_blank h
    rw [hp]

/-- The line that is kept has the same pieces as the one that was typed. -/
theorem parse_parse_raw (line : String) : parse (parse line).raw = parse line := by
  by_cases h : trim line = ""
  · simp only [parse_raw, h, ↓reduceIte]
  · obtain ⟨name, args, hs, hp⟩ := parse_of_not_blank h
    rw [hp]
    simp [parse, trim_trim, h, hs]

/-- The name of a command and what follows it. -/
def tokens (c : Command) : List String := c.name :: c.args

theorem text_eq (c : Command) : c.text = joinWith " " c.tokens := rfl

theorem head_text_of_empty_name {c : Command} (empty : c.name = "") (h : c.text ≠ "") :
    c.text.toList.head? = some ' ' := by
  rw [text, empty] at h ⊢
  cases ha : c.args with
  | nil =>
    rw [ha] at h
    exact absurd rfl h
  | cons next rest => simp [joinWith]

theorem parse_tokens {line : String} (h : trim line ≠ "") :
    (parse line).tokens = split ' ' (trim line) := by
  obtain ⟨name, args, hs, hp⟩ := parse_of_not_blank h
  rw [hp, hs, tokens]

/-- The pieces of a line make up the line that was typed, but for the blanks at its ends. -/
theorem parse_text (line : String) : (parse line).text = trim line := by
  by_cases h : trim line = ""
  · rw [parse_of_blank h, h]
    rfl
  · rw [text_eq, parse_tokens h]
    exact joinWith_split ' ' (trim line)

theorem not_mem_of_mem_parse_tokens {line token : String} (h : token ∈ (parse line).tokens) :
    ' ' ∉ token.toList := by
  by_cases hb : trim line = ""
  · rw [parse_of_blank hb] at h
    have empty : token = "" := by simpa [tokens] using h
    simp [empty]
  · rw [parse_tokens hb] at h
    exact not_mem_of_mem_split h

theorem parse_name_ne_empty {line : String} (h : trim line ≠ "") : (parse line).name ≠ "" := by
  intro empty
  have hc := head_text_of_empty_name empty (by rwa [parse_text])
  rw [parse_text, trim_toList] at hc
  exact absurd (not_blank_of_head_trimChars hc) (by decide)

theorem parse_last_token_ne_empty {line : String} (h : trim line ≠ "") :
    (parse line).tokens.getLast? ≠ some "" := by
  intro last
  obtain ⟨front, hf⟩ := List.getLast?_eq_some_iff.mp last
  cases front with
  | nil => exact parse_name_ne_empty h (List.cons.inj hf).1
  | cons first rest =>
    have ht : trim line = joinWith " " (first :: rest) ++ " " ++ "" := by
      rw [← parse_text, text_eq, hf]
      exact joinWith_append (List.cons_ne_nil _ _) (List.cons_ne_nil _ _)
    have hc : (trimChars line.toList).getLast? = some ' ' := by
      rw [← trim_toList, ht]
      simp
    exact absurd (not_blank_of_getLast_trimChars hc) (by decide)

theorem isLastToken_of_parse {line token : String} (h : trim line ≠ "")
    (last : (parse line).tokens.getLast? = some token) : IsLastToken token := by
  have nonempty : token ≠ "" := by
    rintro rfl
    exact parse_last_token_ne_empty h last
  refine ⟨nonempty, not_mem_of_mem_parse_tokens (List.mem_of_getLast? last), ?_⟩
  intro c hc
  obtain ⟨front, hf⟩ := List.getLast?_eq_some_iff.mp last
  have written : (trimChars line.toList).getLast? = some c := by
    rw [← trim_toList, ← parse_text, text_eq, hf]
    by_cases alone : front = []
    · rw [alone]
      exact hc
    · rw [joinWith_append alone (List.cons_ne_nil _ _), String.toList_append]
      have chars : token.toList ≠ [] := by simpa using nonempty
      exact (List.getLast?_append_of_ne_nil _ chars).trans hc
  exact not_blank_of_getLast_trimChars written

/-- A token after the start of a line is its last token. -/
theorem parse_append_token (start : String) {token : String} (nonempty : start ≠ "")
    (trimmed : trim start = start) (h : IsLastToken token) :
    (parse (start ++ " " ++ token)).tokens = split ' ' start ++ [token] := by
  have chars : start.toList ≠ [] := by simpa using nonempty
  have whole : trim (start ++ " " ++ token) = start ++ " " ++ token := by
    apply trim_eq_self
    · intro c hc
      rw [String.append_assoc, String.toList_append, List.head?_append_of_ne_nil _ chars,
        ← trimmed, trim_toList] at hc
      exact not_blank_of_head_trimChars hc
    · intro c hc
      have last : token.toList ≠ [] := by simpa using h.nonempty
      rw [String.toList_append, List.getLast?_append_of_ne_nil _ last] at hc
      exact h.ends c hc
  have nonblank : trim (start ++ " " ++ token) ≠ "" := by
    rw [whole]
    simp [nonempty]
  have cut : split ' ' (start ++ " " ++ token) = split ' ' start ++ split ' ' token :=
    split_append ' ' start token
  rw [parse_tokens nonblank, whole, cut, split_of_not_mem h.free]

/-- Just these tokens are the last ones of the lines that are not blank. -/
theorem isLastToken_iff {token : String} : IsLastToken token ↔
    ∃ line, trim line ≠ "" ∧ (parse line).tokens.getLast? = some token := by
  constructor
  · intro h
    have tokens := parse_append_token "echo" (by decide) (by decide) h
    refine ⟨"echo" ++ " " ++ token, ?_, by rw [tokens, List.getLast?_concat]⟩
    intro blank
    rw [parse_of_blank blank] at tokens
    cases congrArg List.length tokens
  · rintro ⟨line, h, last⟩
    exact isLastToken_of_parse h last

/-- Tokens without spaces are the pieces of the line that they make up, if nothing of it is
trimmed. -/
theorem parse_joinWith {words : List String} (nonempty : words ≠ [])
    (free : ∀ token ∈ words, ' ' ∉ token.toList) (nonblank : joinWith " " words ≠ "")
    (trimmed : trim (joinWith " " words) = joinWith " " words) :
    (parse (joinWith " " words)).tokens = words ∧
      (parse (joinWith " " words)).raw = joinWith " " words := by
  have hn : trim (joinWith " " words) ≠ "" := by rwa [trimmed]
  refine ⟨?_, ?_⟩
  · rw [parse_tokens hn, trimmed]
    exact split_joinWith nonempty free
  · rw [parse_raw, if_neg hn, trimmed]

theorem flagValue_of_no_flags {c : Command} {flag : String} (hf : isFlag flag = true)
    (plain : ∀ token ∈ c.args, isFlag token = false) : c.flagValue flag = none := by
  have absent : flag ∉ c.args := by
    intro present
    rw [plain flag present] at hf
    cases hf
  rw [flagValue, valuePlace, List.idxOf?_eq_none_iff.mpr absent]
  rfl

theorem hasFlag_of_no_flags {c : Command} {flags : List String}
    (hf : ∀ flag ∈ flags, isFlag flag = true) (plain : ∀ token ∈ c.args, isFlag token = false) :
    c.hasFlag flags = false := by
  apply List.any_eq_false.mpr
  intro flag hm present
  have absent := plain flag (List.contains_iff_mem.mp present)
  rw [hf flag hm] at absent
  cases absent

/-- Taking a line apart and putting the tokens together undo each other. -/
theorem parse_inverts_text :
    (∀ line, (parse line).text = trim line ∧
      (∀ token ∈ (parse line).tokens, ' ' ∉ token.toList) ∧
      (trim line ≠ "" → parse (parse line).raw = parse line ∧ (parse line).name ≠ "" ∧
        (parse line).tokens.getLast? ≠ some "")) ∧
    ∀ words : List String, words ≠ [] → (∀ token ∈ words, ' ' ∉ token.toList) →
      joinWith " " words ≠ "" → trim (joinWith " " words) = joinWith " " words →
      (parse (joinWith " " words)).tokens = words ∧
        (parse (joinWith " " words)).raw = joinWith " " words := by
  refine ⟨?_, ?_⟩
  · intro line
    refine ⟨parse_text line, fun token => not_mem_of_mem_parse_tokens, ?_⟩
    intro nonblank
    exact ⟨parse_parse_raw line, parse_name_ne_empty nonblank, parse_last_token_ne_empty nonblank⟩
  · intro words nonempty free nonblank trimmed
    exact parse_joinWith nonempty free nonblank trimmed

theorem echo_parse_inverts_text :
    trim "\u3000echo  a\tb \n" ≠ "" ∧
    (parse "\u3000echo  a\tb \n").text = "echo  a\tb" ∧
    parse (parse "\u3000echo  a\tb \n").raw = parse "\u3000echo  a\tb \n" ∧
    (∀ token ∈ ["echo", "", "a\tb"], ' ' ∉ token.toList) ∧
    (parse "echo  a\tb").tokens = ["echo", "", "a\tb"] ∧
    (parse "echo  a\tb").raw = "echo  a\tb" := by
  obtain ⟨apart, together⟩ := parse_inverts_text
  have trimmed : trim "\u3000echo  a\tb \n" = "echo  a\tb" := by decide
  have nonblank : trim "\u3000echo  a\tb \n" ≠ "" := by
    rw [trimmed]
    decide
  have free : ∀ token ∈ ["echo", "", "a\tb"], ' ' ∉ token.toList := by decide
  obtain ⟨whole, _, again⟩ := apart "\u3000echo  a\tb \n"
  obtain ⟨tokens, raw⟩ := together ["echo", "", "a\tb"] (by decide) free (by decide) (by decide)
  exact ⟨nonblank, whole.trans trimmed, (again nonblank).1, free, tokens, raw⟩

end Command

end EmulatedShell

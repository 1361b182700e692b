import EmulatedShell.Catalogue.Builtin
import EmulatedShell.Proofs.Movement
import EmulatedShell.Proofs.Particulars
import EmulatedShell.Proofs.Regex.Faults

namespace EmulatedShell

/-- A utility that can break off. -/
def Utility.isRisky : Utility → Bool
  | .risky _ | .riskyDated _ => true
  | _ => false

theorem Utility.ok_of_not_risky {u : Utility} (hu : u.isRisky = false) (i : Invocation)
    (s : Surroundings) (random : RandomSource) :
    ∃ outcome, (u.handler i s random).1 = .ok outcome := by
  cases u with
  | risky | riskyDated => simp [isRisky] at hu
  | _ => exact ⟨_, rfl⟩

theorem Utility.risky_eq_error_iff {reply : Invocation → Except Fault Reply} {i : Invocation}
    {s : Surroundings} {random : RandomSource} {fault : Fault} :
    ((Utility.risky reply).handler i s random).1 = .error fault ↔ reply i = .error fault := by
  cases hr : reply i <;> simp [handler, hr, Except.map]

theorem Utility.riskyDated_eq_error_iff {reply : Invocation → Moment → Except Fault Reply}
    {i : Invocation} {s : Surroundings} {random : RandomSource} {fault : Fault} :
    ((Utility.riskyDated reply).handler i s random).1 = .error fault ↔
      reply i s.now = .error fault := by
  cases hr : reply i s.now <;> simp [handler, hr, Except.map]

/-- The built-in commands that can break off. -/
def riskyCommands : List String := ["grep", "egrep", "fgrep", "chmod", "wget", "ls", "stat"]

theorem builtinCommands_risky :
    (builtinCommands.all fun pair => riskyCommands.contains pair.1 || !pair.2.isRisky) = true := rfl

theorem builtinUtilities_not_risky {name : String} {u : Utility}
    (h : builtinUtilities.get? name = some u) (hn : name ∉ riskyCommands) : u.isRisky = false := by
  have hm := List.all_eq_true.mp builtinCommands_risky _ (Table.mem_of_get?_ofList h)
  simpa [hn] using hm

theorem builtinHandlers_grep :
    builtinHandlers.get? "grep" = some (Utility.risky (grep true)).handler :=
  builtinHandlers_of_utility (builtinUtilities_of_lookup rfl)

/-- A search comes to read its pattern, and reading it breaks off. -/
def SearchBreaksOff (i : Invocation) (fault : Fault) : Prop :=
  i.command.hasFlag ["-r", "-R", "-ri", "-ir"] = false ∧
    ∃ pattern file others content, searchOperands i = pattern :: file :: others ∧
      i.disk.read file = some content ∧
      Regex.parse (i.command.hasFlag ["-i"]) pattern = .error (.fault fault)

theorem SearchBreaksOff.ofPattern {i : Invocation} {fault : Fault} (h : SearchBreaksOff i fault) :
    fault.OfPattern := by
  obtain ⟨_, pattern, _, _, _, _, _, breaks⟩ := h
  exact Regex.parse_tame _ pattern fault breaks

theorem lineTest_eq_error_iff {asPattern ignoreCase : Bool} {pattern : String} {fault : Fault} :
    lineTest asPattern ignoreCase pattern = .error fault ↔
      asPattern = true ∧ Regex.parse ignoreCase pattern = .error (.fault fault) := by
  cases asPattern with
  | false => simp [lineTest]
  | true =>
    unfold lineTest
    simp only [↓reduceIte, true_and]
    split
    next regex hr => simp [hr]
    next hr => simp [hr]
    next reason hr => simp [hr]

theorem grep_of_recursive (asPattern : Bool) {i : Invocation}
    (h : i.command.hasFlag ["-r", "-R", "-ri", "-ir"] = true) :
    ∃ reply, grep asPattern i = .ok reply := by
  simp [grep, h]

theorem grep_of_no_file (asPattern : Bool) {i : Invocation}
    (h : ∀ pattern file others content, searchOperands i = pattern :: file :: others →
      i.disk.read file ≠ some content) : ∃ reply, grep asPattern i = .ok reply := by
  unfold grep
  dsimp only
  split
  · exact ⟨_, rfl⟩
  · split
    · exact ⟨_, rfl⟩
    · exact ⟨_, rfl⟩
    · next pattern file others hs =>
      split
      · exact ⟨_, rfl⟩
      · next content hc => exact absurd hc (h _ _ _ _ hs)

theorem grep_of_file {asPattern : Bool} {i : Invocation} {pattern file content : String}
    {others : List String} (hr : i.command.hasFlag ["-r", "-R", "-ri", "-ir"] = false)
    (hs : searchOperands i = pattern :: file :: others)
    (hc : i.disk.read file = some content) :
    grep asPattern i = (lineTest asPattern (i.command.hasFlag ["-i"]) pattern).map fun test =>
      foundReply i ((linesOf content).filter test) := by
  simp only [grep, hr, hs, hc]
  rfl

theorem grep_eq_error_iff {asPattern : Bool} {i : Invocation} {fault : Fault} :
    grep asPattern i = .error fault ↔ asPattern = true ∧ SearchBreaksOff i fault := by
  constructor
  · intro breaks
    cases hr : i.command.hasFlag ["-r", "-R", "-ri", "-ir"] with
    | true =>
      obtain ⟨reply, ok⟩ := grep_of_recursive asPattern hr
      simp [ok] at breaks
    | false =>
      by_cases hf : ∃ pattern file others content,
          searchOperands i = pattern :: file :: others ∧ i.disk.read file = some content
      · obtain ⟨pattern, file, others, content, hs, hc⟩ := hf
        rw [grep_of_file hr hs hc] at breaks
        have ht : lineTest asPattern (i.command.hasFlag ["-i"]) pattern = .error fault := by
          cases ht : lineTest asPattern (i.command.hasFlag ["-i"]) pattern with
          | ok test => simp [ht, Except.map] at breaks
          | error reason => simpa [ht, Except.map] using breaks
        obtain ⟨as, unreadable⟩ := lineTest_eq_error_iff.mp ht
        exact ⟨as, hr, pattern, file, others, content, hs, hc, unreadable⟩
      · obtain ⟨reply, ok⟩ := grep_of_no_file asPattern (i := i)
          fun pattern file others content hs hc => hf ⟨pattern, file, others, content, hs, hc⟩
        simp [ok] at breaks
  · rintro ⟨as, hr, pattern, file, others, content, hs, hc, unreadable⟩
    rw [grep_of_file hr hs hc, lineTest_eq_error_iff.mpr ⟨as, unreadable⟩]
    rfl

/-- A long listing is asked for, and a size in it is too long to be written. -/
def ListingBreaksOff (i : Invocation) (fault : Fault) : Prop :=
  fault = .tooManyToWrite ∧ i.command.hasFlag longFlags = true ∧
    ∃ entry ∈ i.disk.listing (listedPath i), isWritable entry.listedSize = false

/-- The particulars of a file are asked for, and its size is too long to be written. -/
def ParticularsBreakOff (i : Invocation) (fault : Fault) : Prop :=
  fault = .tooManyToWrite ∧ ∃ name others content, i.operands [] = name :: others ∧
    i.disk.read name = some content ∧ isWritable (i.sizeOf name content) = false

/-- Of the built-in commands but for two, three kinds break off. A search that reads its argument as
a pattern does so exactly when reading the pattern does, which takes a count of rounds that is too
large or too long, or two alphabets. What tells sizes does so when one is too long. -/
theorem builtin_breaks_off_iff {name : String} {handler : Handler}
    (h : builtinHandlers.get? name = some handler) (fetches : name ≠ "wget")
    (changes : name ≠ "chmod") (i : Invocation) (s : Surroundings) (random : RandomSource)
    (fault : Fault) :
    ((handler i s random).1 = .error fault ↔
      (name = "grep" ∨ name = "egrep") ∧ SearchBreaksOff i fault ∨
      name = "ls" ∧ ListingBreaksOff i fault ∨
      name = "stat" ∧ ParticularsBreakOff i fault) ∧
    (SearchBreaksOff i fault → fault.OfPattern) := by
  refine ⟨?_, SearchBreaksOff.ofPattern⟩
  rw [builtinHandlers_get?] at h
  obtain ⟨u, hu, rfl⟩ := Option.map_eq_some_iff.mp h
  have only : ∀ v, builtinUtilities.get? name = some v → u = v :=
    fun v hv => Option.some.inj (hu.symm.trans hv)
  by_cases hn : name ∈ riskyCommands
  · have known : name = "grep" ∨ name = "egrep" ∨ name = "fgrep" ∨ name = "ls" ∨
        name = "stat" := by
      simp only [riskyCommands, List.mem_cons, List.not_mem_nil, or_false] at hn
      tauto
    rcases known with rfl | rfl | rfl | rfl | rfl
    · rw [only _ (builtinUtilities_of_lookup rfl), Utility.risky_eq_error_iff, grep_eq_error_iff]
      simp
    · rw [only _ (builtinUtilities_of_lookup rfl), Utility.risky_eq_error_iff, grep_eq_error_iff]
      simp
    · rw [only _ (builtinUtilities_of_lookup rfl), Utility.risky_eq_error_iff, grep_eq_error_iff]
      simp
    · rw [only _ (builtinUtilities_of_lookup rfl), Utility.riskyDated_eq_error_iff,
        ls_eq_error_iff]
      simp [ListingBreaksOff]
    · rw [only _ (builtinUtilities_of_lookup rfl), Utility.riskyDated_eq_error_iff,
        stat_eq_error_iff]
      simp [ParticularsBreakOff]
  · obtain ⟨outcome, ok⟩ := Utility.ok_of_not_risky (builtinUtilities_not_risky hu hn) i s random
    have calm : ∀ other ∈ riskyCommands, name ≠ other := by
      rintro other hm rfl
      exact hn hm
    simp only [riskyCommands, List.forall_mem_cons] at calm
    simp [ok, calm]

/-- A search for one round more than a pattern can ask for. -/
def endlessSearch : Invocation :=
  ⟨Command.parse "grep a\x7b4294967295\x7d readme.txt", "/home/user", usualDisk, "user", "ai-terminal",
    "/home/user"⟩

theorem endlessSearch_breaks_off_iff :
    builtinHandlers.get? "grep" = some (Utility.risky (grep true)).handler ∧
    SearchBreaksOff endlessSearch .repetitionTooLarge ∧
    Fault.OfPattern .repetitionTooLarge ∧
    ((Utility.risky (grep true)).handler endlessSearch
      ⟨builtinCatalogue, [], ⟨2024, 1, 20, 10, 30, 15, 0⟩⟩ (.cycling [0.5])).1 =
        .error .repetitionTooLarge := by
  have breaks : SearchBreaksOff endlessSearch .repetitionTooLarge :=
    ⟨by decide +kernel, "a\x7b4294967295\x7d", "readme.txt", [], readmeText, by decide +kernel,
      by decide +kernel, by decide⟩
  obtain ⟨breaks_iff, ofPattern⟩ := builtin_breaks_off_iff builtinHandlers_grep (by decide)
    (by decide) endlessSearch ⟨builtinCatalogue, [], ⟨2024, 1, 20, 10, 30, 15, 0⟩⟩
    (.cycling [0.5]) .repetitionTooLarge
  exact ⟨builtinHandlers_grep, breaks, ofPattern breaks,
    breaks_iff.mpr (.inl ⟨.inl rfl, breaks⟩)⟩

/-- It is not so that all other built-in commands end with a result. -/
theorem builtin_breaks_off : ¬∀ name handler, builtinHandlers.get? name = some handler →
    name ≠ "wget" → name ≠ "chmod" → ∀ i s random,
      ∃ outcome, (handler i s random).1 = .ok outcome := by
  intro ends
  obtain ⟨outcome, ok⟩ := ends "grep" _ builtinHandlers_grep (by decide) (by decide)
    endlessSearch ⟨builtinCatalogue, [], ⟨2024, 1, 20, 10, 30, 15, 0⟩⟩ (.cycling [0.5])
  have breaks : grep true endlessSearch = .error .repetitionTooLarge := rfl
  rw [Utility.risky_eq_error_iff.mpr breaks] at ok
  cases ok

end EmulatedShell

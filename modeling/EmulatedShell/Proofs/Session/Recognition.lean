import EmulatedShell.Proofs.CatalogueSearch
import EmulatedShell.Proofs.Flags
import EmulatedShell.Proofs.Registration
import EmulatedShell.Proofs.Session.Utilities
import EmulatedShell.Proofs.Session.ExitCode
import EmulatedShell.Proofs.Session.Operation

namespace EmulatedShell

/-- The names of the built-in commands. -/
def commandNames : List String := builtinCommands.map Prod.fst

/-- The names in the built-in catalogue. -/
def entryNames : List String := builtinEntries.map CatalogueEntry.name

/-- The names of the pages outside any catalogue. -/
def pageNames : List String := builtinPages.map Prod.fst

/-- The answer when there is no page. -/
def noPage (topic : String) : String := "help: no help available for '" ++ topic ++ "'"

namespace Session

variable (host : Host) (time : Moment) (word : String) (s : Session)

/-- A word is carried out as a command. -/
def Runs : Prop := (s.dispatch host ⟨word, [], word⟩ time).1.exitCode ≠ 127

/-- A word is said to stand for a command. -/
def Types : Prop := (s.dispatch host ⟨"type", [word], "type " ++ word⟩ time).1.exitCode = 0

/-- A page is shown for a word. -/
def Explains : Prop :=
  (s.dispatch host ⟨"help", [word], "help " ++ word⟩ time).1.output ≠ noPage word

/-- A shell tells in three ways whether a word is a command, and they agree. -/
structure Agrees : Prop where
  types : s.Runs host time word ↔ s.Types host time word
  explains : s.Runs host time word ↔ s.Explains host time word

end Session

variable {word : String} {i : Invocation}

theorem names_are_commands :
    ((shellBuiltins ++ entryNames).all fun name => commandNames.contains name && name != "clear") =
      true ∧ (pageNames ++ entryNames).all commandNames.contains = true := by
  decide +kernel

theorem commands_are_named :
    (commandNames.all fun name => (shellBuiltins ++ entryNames).contains name || name == "clear") =
      true ∧ commandNames.all (pageNames ++ entryNames).contains = true := by
  decide +kernel

theorem pages_differ :
    (builtinPages.all fun page => page.2 != noPage page.1) = true ∧
    (builtinEntries.all fun entry => entry.page != noPage entry.name) = true := by
  decide +kernel

theorem mem_builtinHandlers_keys : word ∈ builtinHandlers.keys ↔ word ∈ commandNames := by
  have same : builtinHandlers.keys = builtinUtilities.keys := by
    simp [builtinHandlers, Table.map, Table.keys]
  rw [same, builtinUtilities, Table.mem_keys_ofList, commandNames]

theorem mem_builtinCatalogue_keys : word ∈ builtinCatalogue.keys ↔ word ∈ entryNames := by
  have written : builtinCatalogue = Catalogue.ofEntries builtinEntries := rfl
  rw [written, Catalogue.ofEntries, Table.mem_keys_ofList, List.map_map]
  rfl

theorem type_exitCode_iff (given : word ≠ "") (h : i.command.args = [word]) :
    (type i builtinCatalogue).outcome.exitCode = 0 ↔ word ∈ commandNames ∧ word ≠ "clear" := by
  have token : i.command.arg 0 = some word := Command.arg_of_getElem? (by rw [h]; rfl) given
  have known : word ∈ commandNames ∧ word ≠ "clear" ↔ word ∈ shellBuiltins ∨ word ∈ entryNames := by
    constructor
    · rintro ⟨command, other⟩
      have named := List.all_eq_true.mp commands_are_named.1 word command
      simpa [other] using named
    · intro named
      have command := List.all_eq_true.mp names_are_commands.1 word (List.mem_append.mpr named)
      simpa using command
  rw [known, type, token, ← mem_builtinCatalogue_keys, ← Table.has_iff]
  dsimp only
  split
  next builtin => exact iff_of_true rfl (.inl (List.contains_iff_mem.mp builtin))
  next foreign =>
    rw [List.contains_iff_mem] at foreign
    rw [or_iff_right foreign]
    split
    next listed => exact iff_of_true rfl listed
    next unlisted => exact iff_of_false Int.one_ne_zero unlisted

theorem helpPage_isSome_iff :
    (helpPage builtinCatalogue word).isSome = true ↔ word ∈ commandNames := by
  have known : word ∈ commandNames ↔ word ∈ pageNames ∨ word ∈ entryNames := by
    rw [← List.mem_append]
    constructor
    · intro command
      exact List.contains_iff_mem.mp (List.all_eq_true.mp commands_are_named.2 word command)
    · intro named
      exact List.contains_iff_mem.mp (List.all_eq_true.mp names_are_commands.2 word named)
  rw [known, helpPage, pageNames, ← lookup_isSome_iff, ← mem_builtinCatalogue_keys,
    ← Table.has_iff]
  simp [Catalogue.page, Table.has]

/-- No page reads like the answer that there is none. -/
theorem helpPage_ne_noPage {page : String} (h : helpPage builtinCatalogue word = some page) :
    page ≠ noPage word := by
  rcases (Option.orElse_eq_some _ _ _).mp h with builtin | ⟨_, catalogued⟩
  · obtain ⟨before, after, pages, _⟩ := List.lookup_eq_some_iff.mp builtin
    have listed : (word, page) ∈ builtinPages := by simp [pages]
    exact bne_iff_ne.mp (List.all_eq_true.mp pages_differ.1 _ listed)
  · obtain ⟨entry, found, rfl⟩ := Option.map_eq_some_iff.mp catalogued
    obtain ⟨known, listed, same⟩ := List.mem_map.mp (Table.mem_of_get?_ofList found)
    obtain ⟨rfl, rfl⟩ := Prod.mk.inj same
    exact bne_iff_ne.mp (List.all_eq_true.mp pages_differ.2 _ listed)

theorem help_output_iff (given : word ≠ "") (topic : word ≠ "-k") (h : i.command.args = [word]) :
    (help i builtinCatalogue).outcome.output ≠ noPage word ↔ word ∈ commandNames := by
  have token : i.command.arg 0 = some word := Command.arg_of_getElem? (by rw [h]; rfl) given
  have shown : help i builtinCatalogue =
      .ok ((helpPage builtinCatalogue word).getD (noPage word)) := by
    rw [help, token]
    split
    next => contradiction
    next same => exact absurd (Option.some.inj same) topic
    next same =>
      obtain rfl := Option.some.inj same
      rfl
  rw [shown, ← helpPage_isSome_iff, Reply.outcome_ok]
  cases page : helpPage builtinCatalogue word with
  | none => simp
  | some page => exact iff_of_true (helpPage_ne_noPage page) rfl

namespace Session

variable {host : Host} {s t : Session} {time : Moment} {line : String} {r : Record}

theorem dispatch_consulting (handlers : host.handlers = builtinHandlers) {command : Command}
    {reply : Invocation → Catalogue → Reply}
    (known : builtinUtilities.get? command.name = some (.consulting reply)) :
    (s.dispatch host command time).1 =
      (reply (s.invocation host command) host.catalogue).outcome := by
  rw [dispatch_of_utility handlers known rfl]
  rfl

theorem dispatch_exitCode_iff (handlers : host.handlers = builtinHandlers) (command : Command) :
    (s.dispatch host command time).1.exitCode ≠ 127 ↔ command.name ∈ commandNames := by
  rw [← mem_builtinHandlers_keys]
  constructor
  · intro found
    by_contra unknown
    exact found (dispatch_exitCode_of_unknown handlers unknown)
  · intro known
    have code : (s.dispatch host command time).1.exitCode = 0 ∨
        (s.dispatch host command time).1.exitCode = 1 :=
      dispatch_exitCode_of_known handlers known
    omega

theorem execute_exitCode_iff (handlers : host.handlers = builtinHandlers)
    (h : s.execute host line = (.ok r, t)) :
    r.exitCode ≠ 127 ↔ (Command.parse line).name ∈ commandNames := by
  rw [(execute_outcome h rfl).2.1]
  exact dispatch_exitCode_iff handlers (Command.parse line)

theorem runs_iff (handlers : host.handlers = builtinHandlers) :
    s.Runs host time word ↔ word ∈ commandNames :=
  dispatch_exitCode_iff handlers _

section

variable (handlers : host.handlers = builtinHandlers)
  (catalogue : host.catalogue = builtinCatalogue) (given : word ≠ "")

include handlers catalogue given

theorem types_iff : s.Types host time word ↔ word ∈ commandNames ∧ word ≠ "clear" := by
  rw [Types, dispatch_consulting handlers (builtinUtilities_of_lookup rfl), catalogue]
  exact type_exitCode_iff given rfl

theorem explains_iff (topic : word ≠ "-k") : s.Explains host time word ↔ word ∈ commandNames := by
  rw [Explains, dispatch_consulting handlers (builtinUtilities_of_lookup rfl), catalogue]
  exact help_output_iff given topic rfl

end

theorem clear_mem_commandNames : "clear" ∈ commandNames := by
  decide +kernel

/-- What is carried out as a command has a page, and what is not has none. All commands are said to
be commands as well, but for the one that clears the screen. -/
theorem recognition_agrees_iff (handlers : host.handlers = builtinHandlers)
    (catalogue : host.catalogue = builtinCatalogue) (s : Session) (time : Moment)
    (given : word ≠ "") (topic : word ≠ "-k") :
    (s.Agrees host time word ↔ word ≠ "clear") ∧
    (s.Explains host time word ↔ s.Runs host time word) ∧
    (s.Types host time word ↔ s.Runs host time word ∧ word ≠ "clear") ∧
    ∀ line r t, (Command.parse line).name = word → s.execute host line = (.ok r, t) →
      (r.exitCode ≠ 127 ↔ s.Runs host time word) := by
  have runs : s.Runs host time word ↔ word ∈ commandNames := runs_iff handlers
  have types : s.Types host time word ↔ s.Runs host time word ∧ word ≠ "clear" :=
    (types_iff handlers catalogue given).trans (and_congr_left' runs.symm)
  have explains : s.Explains host time word ↔ s.Runs host time word :=
    (explains_iff handlers catalogue given topic).trans runs.symm
  refine ⟨?_, explains, types, ?_⟩
  · constructor
    · rintro ⟨typed, _⟩ rfl
      exact (types.mp (typed.mp (runs.mpr clear_mem_commandNames))).2 rfl
    · intro other
      exact ⟨(and_iff_left other).symm.trans types.symm, explains.symm⟩
  · rintro line r t rfl h
    rw [runs]
    exact execute_exitCode_iff handlers h

theorem listing_recognition_agrees :
    usualShell.handlers = builtinHandlers ∧ usualShell.catalogue = builtinCatalogue ∧
    "ls" ≠ "" ∧ "ls" ≠ "-k" ∧ outset.Agrees usualShell outset.now "ls" ∧
    ∃ r t, outset.execute usualShell "ls -l" = (.ok r, t) ∧ (Command.parse "ls -l").name = "ls" ∧
      r.exitCode ≠ 127 := by
  have handlers : usualShell.handlers = builtinHandlers := rfl
  have catalogue : usualShell.catalogue = builtinCatalogue := rfl
  have given : "ls" ≠ "" := by decide
  have topic : "ls" ≠ "-k" := by decide
  have timely : outset.now.hasTimestamp = true := by decide +kernel
  obtain ⟨agree, _, _, executing⟩ :=
    recognition_agrees_iff handlers catalogue outset outset.now given topic
  have runs : outset.Runs usualShell outset.now "ls" := (runs_iff handlers).mpr (by decide +kernel)
  have named : (Command.parse "ls -l").name = "ls" := by decide
  obtain ⟨r, t, executed⟩ : ∃ r t, outset.execute usualShell "ls -l" = (.ok r, t) :=
    ⟨_, _, execute_of_timestamp timely⟩
  have carried := (executing "ls -l" r t named executed).mpr runs
  exact ⟨handlers, catalogue, given, topic, agree.mpr (by decide), r, t, executed, named, carried⟩

theorem clear_not_recognized :
    (¬∀ (host : Host) (s : Session) (time : Moment) (word : String),
      host.handlers = builtinHandlers → host.catalogue = builtinCatalogue →
        word ≠ "" → word ≠ "-k" → s.Agrees host time word) ∧
    outset.Runs usualShell outset.now "clear" ∧ outset.Explains usualShell outset.now "clear" ∧
    ¬outset.Types usualShell outset.now "clear" := by
  have given : "clear" ≠ "" := by decide
  have runs : outset.Runs usualShell outset.now "clear" := (runs_iff rfl).mpr clear_mem_commandNames
  have untyped : ¬outset.Types usualShell outset.now "clear" :=
    fun typed => ((types_iff rfl rfl given).mp typed).2 rfl
  refine ⟨?_, runs, (explains_iff rfl rfl given (by decide)).mpr clear_mem_commandNames, untyped⟩
  intro agree
  have agreed := agree usualShell outset outset.now "clear" rfl rfl given (by decide)
  exact untyped (agreed.types.mp runs)

end Session

end EmulatedShell

import EmulatedShell.Catalogue.Builtin
import EmulatedShell.Proofs.Calls
import EmulatedShell.Proofs.Search
import EmulatedShell.Proofs.Text.Caseless

namespace EmulatedShell

/-- A term stands in a text, the case of the letters aside. -/
def StandsIn (term text : String) : Prop := (lowercase term).toList <:+: (lowercase text).toList

instance (term text : String) : Decidable (StandsIn term text) :=
  inferInstanceAs (Decidable ((lowercase term).toList <:+: (lowercase text).toList))

namespace CatalogueEntry

/-- A term stands in the name of an entry or in its description, the case of the letters aside. -/
def IsAbout (entry : CatalogueEntry) (term : String) : Prop :=
  StandsIn term entry.name ∨ StandsIn term entry.description

/-- The small form of a term stands in the name of an entry as it is written, or the term stands in
its description. -/
def IsFoundBy (entry : CatalogueEntry) (term : String) : Prop :=
  (lowercase term).toList <:+: entry.name.toList ∨ StandsIn term entry.description

/-- An entry has a name in small letters, or one that its description holds. -/
def IsPlain (entry : CatalogueEntry) : Prop :=
  lowercase entry.name = entry.name ∨ StandsIn entry.name entry.description

instance (entry : CatalogueEntry) (term : String) : Decidable (entry.IsAbout term) :=
  inferInstanceAs (Decidable (_ ∨ _))

instance (entry : CatalogueEntry) (term : String) : Decidable (entry.IsFoundBy term) :=
  inferInstanceAs (Decidable (_ ∨ _))

end CatalogueEntry

/-- What is printed of the entries that a term finds. -/
def foundText (term : String) (entries : List CatalogueEntry) : String :=
  if entries = [] then "help: nothing appropriate for '" ++ term ++ "'"
  else joinLines (entries.map fun entry => padEnd 12 entry.name ++ " - " ++ entry.description)

variable {c : Catalogue} {entry : CatalogueEntry} {term text : String}

theorem StandsIn.trans {middle : String} (h : StandsIn term middle) (h' : StandsIn middle text) :
    StandsIn term text := List.IsInfix.trans h h'

/-- No text is shorter in small letters, so it holds its small form only if it is that form. -/
theorem lowercase_infix_iff :
    (lowercase text).toList <:+: text.toList ↔ lowercase text = text := by
  constructor
  · intro holds
    have longer : text.toList.length ≤ (lowercase text).toList.length := by
      rw [String.length_toList, String.length_toList, lowercase_length]
      omega
    exact String.toList_inj.mp (holds.eq_of_length_le longer)
  · intro small
    rw [small]

namespace CatalogueEntry

theorem IsFoundBy.isAbout (found : entry.IsFoundBy term) : entry.IsAbout term := by
  refine found.imp_left fun named => ?_
  rw [StandsIn, lowercase, lowercase, String.toList_ofList, String.toList_ofList] at *
  exact infix_lowerAfter_of_infix named

theorem isFoundBy_name_iff : entry.IsFoundBy entry.name ↔ entry.IsPlain :=
  or_congr_left lowercase_infix_iff

theorem IsPlain.isFoundBy (plain : entry.IsPlain) (about : entry.IsAbout term) :
    entry.IsFoundBy term := by
  rcases about with named | described
  · rcases plain with small | held
    · rw [StandsIn, small] at named
      exact .inl named
    · exact .inr (named.trans held)
  · exact .inr described

end CatalogueEntry

namespace Catalogue

/-- The entries about a term, in the order of the catalogue. -/
def about (c : Catalogue) (term : String) : List CatalogueEntry :=
  c.values.filter fun entry => entry.IsAbout term

theorem mem_about_iff : entry ∈ c.about term ↔ entry ∈ c.values ∧ entry.IsAbout term := by
  rw [about, List.mem_filter, decide_eq_true_eq]

theorem search_eq_filter (c : Catalogue) (term : String) :
    c.search term = c.values.filter fun entry => entry.IsFoundBy term := by
  apply List.filter_congr
  intro entry _
  rw [Bool.eq_iff_iff, Bool.or_eq_true, contains_iff_infix, contains_iff_infix, decide_eq_true_eq]
  rfl

theorem mem_search_iff : entry ∈ c.search term ↔ entry ∈ c.values ∧ entry.IsFoundBy term := by
  rw [search_eq_filter, List.mem_filter, decide_eq_true_eq]

theorem search_sublist_about (c : Catalogue) (term : String) :
    (c.search term).Sublist (c.about term) := by
  rw [search_eq_filter, about]
  apply List.monotone_filter_right
  intro entry found
  rw [decide_eq_true_eq] at found ⊢
  exact found.isAbout

theorem search_eq_about_iff : c.search term = c.about term ↔
    ∀ entry ∈ c.values, entry.IsAbout term → entry.IsFoundBy term := by
  constructor
  · intro same entry listed isAbout
    have found : entry ∈ c.search term := same ▸ mem_about_iff.mpr ⟨listed, isAbout⟩
    exact (mem_search_iff.mp found).2
  · intro complete
    rw [search_eq_filter, about]
    apply List.filter_congr
    intro entry listed
    rw [decide_eq_decide]
    exact ⟨CatalogueEntry.IsFoundBy.isAbout, complete entry listed⟩

end Catalogue

theorem searchReply_outcome (c : Catalogue) (term : String) :
    (searchReply c term).outcome = ⟨foundText term (c.search term), 0, none⟩ := by
  rw [searchReply, foundText]
  cases c.search term <;> rfl

theorem help_shows_found (i : Invocation) (s : Surroundings) (random : RandomSource)
    (given : term ≠ "") (rest : List String) :
    (i.calling "help" ("-k" :: term :: rest)).carriedOut s random =
      some (.ok ⟨foundText term (s.catalogue.search term), 0, none⟩) := by
  have asked : (i.calling "help" ("-k" :: term :: rest)).command.arg 0 = some "-k" := rfl
  have sought : (i.calling "help" ("-k" :: term :: rest)).command.arg 1 = some term := by
    simp [Invocation.calling, Command.arg, given]
  rw [Invocation.carriedOut_calling (builtinUtilities_of_lookup rfl), Utility.handler, help, asked]
  simp only [sought, searchReply_outcome]

/-- A search finds the entries that have a term in their description in any case, or in their name
as it is written. It finds all entries about a term just when each finds itself by its own name. -/
theorem search_finds_about_iff (c : Catalogue) :
    (∀ term, c.search term = (c.values.filter fun entry => entry.IsFoundBy term) ∧
      (c.search term).Sublist (c.about term)) ∧
    (∀ entry ∈ c.values, entry ∈ c.search entry.name ↔ entry.IsPlain) ∧
    ((∀ term, c.search term = c.about term) ↔ ∀ entry ∈ c.values, entry.IsPlain) ∧
    ∀ (i : Invocation) (s : Surroundings) random term rest, s.catalogue = c → term ≠ "" →
      (i.calling "help" ("-k" :: term :: rest)).carriedOut s random =
        some (.ok ⟨foundText term (c.search term), 0, none⟩) := by
  refine ⟨?_, ?_, ?_, ?_⟩
  · exact fun term => ⟨c.search_eq_filter term, c.search_sublist_about term⟩
  · intro entry listed
    rw [Catalogue.mem_search_iff, and_iff_right listed, CatalogueEntry.isFoundBy_name_iff]
  · constructor
    · intro complete entry listed
      have itself : entry.IsAbout entry.name := .inl List.infix_rfl
      exact CatalogueEntry.isFoundBy_name_iff.mp
        (Catalogue.search_eq_about_iff.mp (complete entry.name) entry listed itself)
    · intro plain term
      exact Catalogue.search_eq_about_iff.mpr fun entry listed => (plain entry listed).isFoundBy
  · rintro i s random term rest rfl given
    exact help_shows_found i s random given rest

theorem Catalogue.mem_of_mem_values_ofEntries {entries : List CatalogueEntry}
    (h : entry ∈ (ofEntries entries).values) : entry ∈ entries := by
  obtain ⟨key, listed⟩ := Table.mem_of_mem_values_ofList h
  obtain ⟨known, hm, same⟩ := List.mem_map.mp listed
  obtain ⟨_, rfl⟩ := Prod.mk.inj same
  exact hm

/-- All commands that the shell knows of. -/
def builtinEntries : List CatalogueEntry :=
  fileEntries ++ textEntries ++ networkEntries ++ processEntries ++ machineEntries ++
    permissionEntries ++ archiveEntries ++ utilityEntries

theorem builtinEntries_small :
    (builtinEntries.all fun entry => lowerAfter [] entry.name.toList == entry.name.toList) =
      true := by
  decide +kernel

theorem builtinCatalogue_plain : ∀ entry ∈ builtinCatalogue.values, entry.IsPlain := by
  intro entry listed
  have known : entry ∈ builtinEntries := Catalogue.mem_of_mem_values_ofEntries listed
  have small := beq_iff_eq.mp (List.all_eq_true.mp builtinEntries_small entry known)
  refine .inl (String.toList_inj.mp ?_)
  rw [lowercase, String.toList_ofList, small]

/-- All names in the built-in catalogue are in small letters, so that nothing is missed in it. -/
theorem builtin_search_finds_about :
    (∀ entry ∈ builtinCatalogue.values, entry.IsPlain) ∧
    (∀ term, builtinCatalogue.search term = builtinCatalogue.about term) ∧
    (∀ entry ∈ builtinCatalogue.values, entry ∈ builtinCatalogue.search entry.name) ∧
    ((beside "notes.txt" "tea").calling "help" ["-k", "DNS"]).carriedOut
        ⟨builtinCatalogue, [], ⟨2024, 1, 20, 10, 30, 15, 0⟩⟩ (.cycling [0.5]) =
      some (.ok ⟨foundText "DNS" (builtinCatalogue.about "DNS"), 0, none⟩) := by
  obtain ⟨_, itself, complete, shown⟩ := search_finds_about_iff builtinCatalogue
  have all := complete.mpr builtinCatalogue_plain
  refine ⟨builtinCatalogue_plain, all, ?_, ?_⟩
  · intro entry listed
    exact (itself entry listed).mpr (builtinCatalogue_plain entry listed)
  · rw [← all]
    exact shown _ _ _ "DNS" [] rfl (by decide)

/-- A catalogue with a capital in a name. -/
def toolbox : Catalogue := .ofEntries [⟨"Make", "Build programs", .system, "Make [TARGET]", []⟩]

/-- A search for the very name of a command can miss it. -/
theorem search_misses_capital :
    ¬∀ (c : Catalogue) (term : String), c.search term = c.about term := by
  intro complete
  have missed := complete toolbox "Make"
  revert missed
  decide +kernel

end EmulatedShell

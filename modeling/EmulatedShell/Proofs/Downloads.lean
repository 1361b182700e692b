import EmulatedShell.Proofs.Calls
import EmulatedShell.Proofs.Web.Written

namespace EmulatedShell

/-- The last piece of a path, or the usual name of a page when that is empty. -/
def savedName (path : String) : String :=
  if lastPiece path = "" then "index.html" else lastPiece path

/-- A location is fetched from a domain and saved under a name, whatever the time is. -/
def Invocation.Fetches (i : Invocation) (args : List String) (url domain file : String) : Prop :=
  ∀ s random, (i.calling "wget" args).carriedOut s random =
    some (.ok (fetchReport (webStamp s.now) url domain file).outcome)

variable {i : Invocation} {args front back : List String}
  {stamp url domain other file name : String} {w : WrittenLocation}

theorem operands_of_split (idle : ∀ token ∈ front, isOperand token = false)
    (operand : isOperand url = true) : (operands [] (front ++ url :: back)).head? = some url := by
  induction front with
  | nil => simp [operands, operandsAfter, operand]
  | cons token front ih =>
    have later := ih fun other ho => idle other (List.mem_cons_of_mem _ ho)
    simpa [operands, operandsAfter, idle token List.mem_cons_self] using later

theorem fetches_of_location {location : Location} (operand : (operands [] args).head? = some url)
    (parts : Location.ofText (withScheme url) = .ok location) :
    i.Fetches args url (if location.host = "" then "example.com" else location.host)
      (savedName location.path) := by
  intro s random
  have first : ((i.calling "wget" args).operands []).head? = some url := operand
  have answer : wget (i.calling "wget" args) s.now = .ok (fetchReport (webStamp s.now) url
      (if location.host = "" then "example.com" else location.host) (savedName location.path)) := by
    rw [wget, first, Option.getD_some, parts, savedName, ← Location.fileName_eq]
    rfl
  rw [Invocation.carriedOut_calling (builtinUtilities_of_lookup rfl), Utility.handler, answer]
  rfl

/-- What is printed tells the domain and the file. -/
theorem fetchReport_inj (word : ' ' ∉ domain.toList) (word' : ' ' ∉ other.toList) :
    (fetchReport stamp url domain file).output = (fetchReport stamp url other name).output ↔
      domain = other ∧ file = name := by
  have before : ∀ {text : String} {rest : List Char}, ' ' ∉ text.toList →
      (text.toList ++ ' ' :: rest).takeWhile (· != ' ') = text.toList := by
    intro text rest absent
    exact takeWhile_append_stop
      (fun c hc => bne_iff_ne.mpr fun same => absent (same ▸ hc)) (by simp)
  constructor
  · intro output
    simp only [fetchReport, Reply.lines, Reply.ok, joinLines, joinWith] at output
    have lengths := congrArg String.length output
    simp only [padEnd, replicate, String.length_append, String.length_ofList,
      List.length_replicate] at lengths
    have chars := congrArg String.toList output
    have opening : " (".toList = [' ', '('] := rfl
    simp only [String.toList_append, List.append_assoc, List.append_cancel_left_eq, opening,
      List.cons_append] at chars
    have ahead := congrArg (List.takeWhile (· != ' ')) chars
    rw [before word, before word'] at ahead
    obtain rfl := String.toList_injective ahead
    simp only [List.append_cancel_left_eq, List.cons.injEq, true_and] at chars
    refine ⟨rfl, String.toList_injective (List.append_inj_left chars ?_)⟩
    rw [String.length_toList, String.length_toList]
    omega
  · rintro ⟨rfl, rfl⟩
    rfl

theorem Invocation.Fetches.eq_iff (h : i.Fetches args url domain file)
    (word : ' ' ∉ domain.toList) (word' : ' ' ∉ other.toList) :
    i.Fetches args url other name ↔ domain = other ∧ file = name := by
  constructor
  · intro h'
    have surroundings : Surroundings := ⟨Table.ofList [], [], ⟨2024, 1, 20, 10, 30, 15, 0⟩⟩
    have same := (h surroundings (.cycling [])).symm.trans (h' surroundings (.cycling []))
    have outcomes := Except.ok.inj (Option.some.inj same)
    exact (fetchReport_inj word word').mp (congrArg Outcome.output outcomes)
  · rintro ⟨rfl, rfl⟩
    exact h

namespace WrittenLocation

theorem isOperand_text (w : WrittenLocation) : isOperand w.text = true := by
  obtain ⟨first, start, letter⟩ := w.exists_head_text
  have hyphen : first ≠ '-' := ne_of_test letter rfl
  have nonempty : w.text ≠ "" := by
    intro empty
    rw [empty] at start
    cases start
  rw [isOperand, isFlag, Bool.and_eq_true, bne_iff_ne]
  refine ⟨nonempty, ?_⟩
  cases chars : w.text.toList with
  | nil => simp [chars] at start
  | cons c rest =>
    obtain rfl : c = first := by simpa [chars] using start
    simp [beginsWith, chars, List.isPrefixOf, hyphen.symm]

theorem lowercase_host_ne_empty (w : WrittenLocation) : lowercase w.host ≠ "" := by
  intro empty
  obtain ⟨first, rest, start, _⟩ := w.exists_head_host
  have chars := w.toList_lowercase_host
  rw [empty, start] at chars
  cases chars

theorem space_not_mem_lowercase_host (w : WrittenLocation) :
    ' ' ∉ (lowercase w.host).toList := by
  rw [toList_lowercase_host]
  intro space
  obtain ⟨c, hc, same⟩ := List.mem_map.mp space
  have blank : isBlank (lowerChar c) = true := by
    rw [same]
    rfl
  rw [isBlank_lowerChar, (plain_of_isHostChar (isHostChar_of_mem_host hc)).2.2] at blank
  cases blank

theorem text_of_no_scheme (given : w.scheme = none) : w.text = w.body := by
  rw [text, given]
  exact String.empty_append

theorem withScheme_text_of_passes (passes : w.PassesForSchemed) : withScheme w.text = w.body := by
  rw [withScheme, text_of_no_scheme passes.1, if_pos (w.contains_mark_body_iff.mpr passes.2)]

theorem exists_withScheme_text (plain : ¬w.PassesForSchemed) :
    ∃ scheme, isSchemeName scheme = true ∧ withScheme w.text = scheme ++ "://" ++ w.body := by
  cases given : w.scheme with
  | none =>
    have unmarked : ¬contains "://" w.body = true :=
      fun mark => plain ⟨given, w.contains_mark_body_iff.mp mark⟩
    refine ⟨"https", rfl, ?_⟩
    rw [withScheme, text_of_no_scheme given, if_neg unmarked]
    rfl
  | some scheme =>
    have whole : w.text = scheme ++ "://" ++ w.body := by
      rw [text, given]
      rfl
    have marked : contains "://" w.text = true := by
      apply occursIn_iff.mpr
      exact ⟨scheme.toList, w.body.toList, by simp [whole]⟩
    exact ⟨scheme, w.scheme_named scheme given, by rw [withScheme, if_pos marked, whole]⟩

theorem fetches_of_not_passes (i : Invocation) (idle : ∀ token ∈ front, isOperand token = false)
    (plain : ¬w.PassesForSchemed) :
    i.Fetches (front ++ w.text :: back) w.text (lowercase w.host) (savedName w.path) := by
  obtain ⟨scheme, named, schemed⟩ := exists_withScheme_text plain
  have parts : Location.ofText (withScheme w.text) = .ok ⟨w.authority, w.path⟩ := by
    rw [schemed, ofText_schemed named]
  have first : (operands [] (front ++ w.text :: back)).head? = some w.text :=
    operands_of_split idle w.isOperand_text
  have fetches := fetches_of_location (i := i) first parts
  rwa [host_eq, if_neg w.lowercase_host_ne_empty] at fetches

theorem fetches_of_passes (i : Invocation) (idle : ∀ token ∈ front, isOperand token = false)
    (passes : w.PassesForSchemed) :
    i.Fetches (front ++ w.text :: back) w.text "example.com" (savedName (w.stem ++ w.path)) := by
  have parts : Location.ofText (withScheme w.text) = .ok ⟨"", w.stem ++ w.path⟩ := by
    rw [withScheme_text_of_passes passes, ofText_unschemed]
  have first : (operands [] (front ++ w.text :: back)).head? = some w.text :=
    operands_of_split idle w.isOperand_text
  have fetches := fetches_of_location (i := i) first parts
  rwa [Location.host_of_no_authority, if_pos rfl] at fetches

theorem savedName_stem_append (rooted : w.path ≠ "") :
    savedName (w.stem ++ w.path) = savedName w.path := by
  obtain ⟨rest, chars⟩ : ∃ rest, w.path = "/" ++ rest := by
    cases start : w.path.toList with
    | nil => exact absurd (String.toList_eq_nil_iff.mp start) rooted
    | cons c rest =>
      obtain rfl : c = '/' := slash_of_head_path (by rw [start]; rfl)
      exact ⟨String.ofList rest, String.toList_inj.mp (by simp [start])⟩
  have behind : lastPiece (w.stem ++ w.path) = lastPiece rest := by
    rw [chars, ← String.append_assoc, lastPiece_append_slash]
  have alone : lastPiece w.path = lastPiece rest := by
    rw [chars, ← String.empty_append (s := "/"), lastPiece_append_slash]
  rw [savedName, savedName, behind, alone]

theorem savedName_stem (w : WrittenLocation) : savedName w.stem = w.stem := by
  have whole : lastPiece w.stem = w.stem := lastPiece_of_not_mem fun slash =>
    ne_of_test (isAuthorityChar_of_mem (mem_authority_of_mem_stem slash)) rfl rfl
  have nonempty : w.stem ≠ "" := by
    intro empty
    obtain ⟨first, rest, start, _⟩ := w.exists_head_stem
    rw [empty] at start
    cases start
  rw [savedName, whole, if_neg nonempty]

theorem stem_ne_page (home : lowercase w.host = "example.com") : w.stem ≠ "index.html" := by
  intro page
  unfold stem at page
  split at page
  next =>
    rw [page] at home
    exact absurd home (by decide)
  next port given =>
    split at page
    next =>
      have numbered := w.port_numbered port given
      rw [page] at numbered
      cases numbered
    next =>
      have colon : ':' ∈ w.authority.toList := by simp [authority_of_port given]
      rw [page] at colon
      exact absurd colon (by decide)

theorem savedName_eq_iff (home : lowercase w.host = "example.com") :
    savedName (w.stem ++ w.path) = savedName w.path ↔ w.path ≠ "" := by
  constructor
  · intro same pathless
    rw [pathless, String.append_empty, savedName_stem] at same
    exact stem_ne_page home same
  · exact savedName_stem_append

theorem fetches_as_written_iff (i : Invocation)
    (idle : ∀ token ∈ front, isOperand token = false) :
    i.Fetches (front ++ w.text :: back) w.text (lowercase w.host) (savedName w.path) ↔
      ¬w.PassesForSchemed ∨ lowercase w.host = "example.com" ∧ w.path ≠ "" := by
  by_cases passes : w.PassesForSchemed
  · have usual : ' ' ∉ "example.com".toList := by decide
    rw [(fetches_of_passes i idle passes).eq_iff usual w.space_not_mem_lowercase_host,
      or_iff_right (not_not_intro passes), eq_comm]
    exact and_congr_right savedName_eq_iff
  · exact iff_of_true (fetches_of_not_passes i idle passes) (.inl passes)

end WrittenLocation

/-- The first operand is fetched from its host in small letters and saved under the last piece of
its path. Only where the mark of a scheme stands after the host of a location without one, no host
is found: the usual domain stands in for it, and what stands before the path counts to that. -/
theorem wget_fetches_as_written_iff (i : Invocation) (w : WrittenLocation)
    (front back : List String) (idle : ∀ token ∈ front, isOperand token = false) :
    (¬w.PassesForSchemed →
      i.Fetches (front ++ w.text :: back) w.text (lowercase w.host) (savedName w.path)) ∧
    (w.PassesForSchemed →
      i.Fetches (front ++ w.text :: back) w.text "example.com" (savedName (w.stem ++ w.path))) ∧
    (i.Fetches (front ++ w.text :: back) w.text (lowercase w.host) (savedName w.path) ↔
      ¬w.PassesForSchemed ∨ lowercase w.host = "example.com" ∧ w.path ≠ "") :=
  ⟨WrittenLocation.fetches_of_not_passes i idle, WrittenLocation.fetches_of_passes i idle,
    WrittenLocation.fetches_as_written_iff i idle⟩

/-- A page that is told where to go on to. -/
def loginPage : WrittenLocation where
  scheme := none
  host := "Foo.org"
  port := none
  path := "/login"
  query := some "next=http://bar.org/x"
  fragment := none
  scheme_named := by decide
  host_named := by decide
  port_numbered := by decide
  path_rooted := by decide
  path_plain := by decide
  query_plain := by decide
  fragment_plain := by decide

/-- The same page with its scheme. -/
def secureLoginPage : WrittenLocation :=
  { loginPage with scheme := some "https", scheme_named := by decide }

theorem loginPage_passes : loginPage.PassesForSchemed :=
  ⟨rfl, .inr (.inl ⟨_, rfl, by decide⟩)⟩

/-- The page comes from the usual domain, and with its scheme from its host. -/
theorem wget_fetches_loginPage :
    (∀ token ∈ ["-q"], isOperand token = false) ∧
      (beside "notes.txt" "tea").Fetches ["-q", "Foo.org/login?next=http://bar.org/x"]
        "Foo.org/login?next=http://bar.org/x" "example.com" "login" ∧
      (beside "notes.txt" "tea").Fetches ["-q", "https://Foo.org/login?next=http://bar.org/x"]
        "https://Foo.org/login?next=http://bar.org/x" "foo.org" "login" := by
  have idle : ∀ token ∈ ["-q"], isOperand token = false := by decide
  have bare : loginPage.text = "Foo.org/login?next=http://bar.org/x" ∧
      savedName (loginPage.stem ++ loginPage.path) = "login" := by
    decide
  have secure : secureLoginPage.text = "https://Foo.org/login?next=http://bar.org/x" ∧
      lowercase secureLoginPage.host = "foo.org" ∧ savedName secureLoginPage.path = "login" := by
    decide
  have fromUsual :=
    (wget_fetches_as_written_iff (beside "notes.txt" "tea") loginPage ["-q"] [] idle).2.1
      loginPage_passes
  have schemed : ¬secureLoginPage.PassesForSchemed := fun passes => nomatch passes.1
  have fromHost :=
    (wget_fetches_as_written_iff (beside "notes.txt" "tea") secureLoginPage ["-q"] [] idle).1
      schemed
  rw [bare.1, bare.2] at fromUsual
  rw [secure.1, secure.2.1, secure.2.2] at fromHost
  exact ⟨idle, fromUsual, fromHost⟩

/-- The host of the page is lost. -/
theorem wget_loses_host :
    ¬∀ (i : Invocation) (w : WrittenLocation),
      i.Fetches [w.text] w.text (lowercase w.host) (savedName w.path) := by
  intro written
  have other : lowercase loginPage.host ≠ "example.com" := by decide
  have idle : ∀ token ∈ ([] : List String), isOperand token = false :=
    fun _ none => absurd none List.not_mem_nil
  have found : ¬loginPage.PassesForSchemed ∨
      lowercase loginPage.host = "example.com" ∧ loginPage.path ≠ "" :=
    (WrittenLocation.fetches_as_written_iff (beside "notes.txt" "tea") idle).mp (written _ _)
  rcases found with plain | ⟨usual, _⟩
  · exact plain loginPage_passes
  · exact other usual

end EmulatedShell

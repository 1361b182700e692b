import EmulatedShell.Proofs.Text.Caseless
import EmulatedShell.Proofs.Web.Location

namespace EmulatedShell

/-- A letter with letters and digits after it. -/
def isSchemeName (text : String) : Bool :=
  text.toList.head?.any Char.isAlpha && text.toList.all Char.isAlphanum

/-- A letter or digit with letters, digits, hyphens and points after it. -/
def isHostName (text : String) : Bool :=
  text.toList.head?.any Char.isAlphanum && text.toList.all isHostChar

/-- One or more digits. -/
def isPort (text : String) : Bool := !text.toList.isEmpty && text.toList.all Char.isDigit

/-- A visible character that neither announces a query nor a fragment. -/
def isPathChar (c : Char) : Bool := isVisible c && c != '?' && c != '#'

/-- A visible character that announces no fragment. -/
def isQueryChar (c : Char) : Bool := isVisible c && c != '#'

/-- A location in the parts in which it is written. -/
structure WrittenLocation where
  scheme : Option String
  host : String
  port : Option String
  path : String
  query : Option String
  fragment : Option String
  scheme_named : ∀ text ∈ scheme, isSchemeName text = true
  host_named : isHostName host = true
  port_numbered : ∀ text ∈ port, isPort text = true
  path_rooted : path = "" ∨ beginsWith "/" path = true
  path_plain : path.toList.all isPathChar = true
  query_plain : ∀ text ∈ query, text.toList.all isQueryChar = true
  fragment_plain : ∀ text ∈ fragment, text.toList.all isVisible = true

/-- A part after the mark that announces it, or nothing. -/
def announced (mark : Char) (part : Option String) : String :=
  part.elim "" (String.singleton mark ++ ·)

namespace WrittenLocation

/-- The host with its port. -/
def authority (w : WrittenLocation) : String := w.host ++ announced ':' w.port

/-- What comes after the path. -/
def ending (w : WrittenLocation) : String := announced '?' w.query ++ announced '#' w.fragment

/-- The location without its scheme. -/
def body (w : WrittenLocation) : String := w.authority ++ w.path ++ w.ending

/-- The location as one text. -/
def text (w : WrittenLocation) : String := w.scheme.elim "" (· ++ "://") ++ w.body

/-- What stands before the path of a location without a scheme: the host, unless the host passes for
a scheme before a port, which leaves the port. -/
def stem (w : WrittenLocation) : String :=
  match w.port with
  | none => w.host
  | some port => if w.host.toList.head?.any Char.isAlpha then port else w.authority

/-- The location has no scheme, and yet the mark of one stands in its path, query or fragment. -/
def PassesForSchemed (w : WrittenLocation) : Prop :=
  w.scheme = none ∧ (contains "://" w.path = true ∨
    (∃ text ∈ w.query, contains "://" text = true) ∨
    ∃ text ∈ w.fragment, contains "://" text = true)

end WrittenLocation

variable {c mark : Char} {front back needle : List Char} {port : String} {part : Option String}
  {w : WrittenLocation}

theorem mem_announced (h : c ∈ (announced mark part).toList) :
    c = mark ∨ ∃ text ∈ part, c ∈ text.toList := by
  cases part with
  | none => cases h
  | some text => simpa [announced] using h

theorem head_announced (h : c ∈ (announced mark part).toList.head?) : c = mark := by
  cases part with
  | none => cases h
  | some text => simpa [announced, eq_comm] using h

theorem infix_append_of_stop (stop : ∀ c ∈ back.head?, c ∉ needle) :
    needle <:+: front ++ back ↔ needle <:+: front ∨ needle <:+: back := by
  rw [List.infix_append_iff, ← or_assoc]
  apply or_iff_left_of_imp
  rintro ⟨near, far, rfl, ends, starts⟩
  cases far with
  | nil => exact .inl (by simpa using ends.isInfix)
  | cons c far =>
    obtain ⟨rest, rfl⟩ := starts
    exact absurd (List.mem_append_right near List.mem_cons_self) (stop c rfl)

theorem infix_announced_iff (nonempty : needle ≠ []) (other : mark ∉ needle) :
    needle <:+: (announced mark part).toList ↔ ∃ text ∈ part, needle <:+: text.toList := by
  cases part with
  | none => simpa [announced] using nonempty
  | some text =>
    have chars : (announced mark (some text)).toList = mark :: text.toList := by simp [announced]
    have ahead : ¬needle <+: mark :: text.toList := by
      rintro ⟨rest, same⟩
      cases needle with
      | nil => exact nonempty rfl
      | cons c needle => exact other ((List.cons.inj same).1 ▸ List.mem_cons_self)
    rw [chars, List.infix_cons_iff, or_iff_right ahead]
    simp

namespace WrittenLocation

theorem isHostChar_of_mem_host (h : c ∈ w.host.toList) : isHostChar c = true := by
  have named := w.host_named
  rw [isHostName, Bool.and_eq_true, List.all_eq_true] at named
  exact named.2 c h

theorem slash_of_head_path (h : c ∈ w.path.toList.head?) : c = '/' := by
  rcases w.path_rooted with empty | slash
  · rw [empty] at h
    cases h
  · cases chars : w.path.toList with
    | nil => simp [chars] at h
    | cons first rest =>
      rw [chars] at h
      have slashed : '/' = first := by simpa [beginsWith, chars, List.isPrefixOf] using slash
      exact (Option.some.inj h).symm.trans slashed.symm

theorem plain_of_mem_path (h : c ∈ w.path.toList) : isVisible c = true ∧ c ≠ '?' ∧ c ≠ '#' := by
  simpa [isPathChar, and_assoc] using List.all_eq_true.mp w.path_plain c h

theorem plain_of_mem_query {query : String} (given : query ∈ w.query) (h : c ∈ query.toList) :
    isVisible c = true ∧ c ≠ '#' := by
  simpa [isQueryChar] using List.all_eq_true.mp (w.query_plain query given) c h

theorem digits_of_port (given : w.port = some port) :
    port.toList ≠ [] ∧ ∀ c ∈ port.toList, c.isDigit = true := by
  have numbered := w.port_numbered port given
  rw [isPort, Bool.and_eq_true, List.all_eq_true] at numbered
  exact ⟨by simpa using numbered.1, numbered.2⟩

theorem isAuthorityChar_of_mem (h : c ∈ w.authority.toList) : isAuthorityChar c = true := by
  rw [isAuthorityChar, Bool.or_eq_true, decide_eq_true_eq]
  rw [authority, String.toList_append, List.mem_append] at h
  rcases h with host | after
  · exact .inl (isHostChar_of_mem_host host)
  · rcases mem_announced after with rfl | ⟨port, there, digit⟩
    · exact .inr rfl
    · exact .inl (isHostChar_of_isDigit ((digits_of_port there).2 c digit))

theorem isVisible_of_mem_body (h : c ∈ w.body.toList) : isVisible c = true := by
  simp only [body, ending, String.toList_append, List.mem_append] at h
  rcases h with (authority | path) | query | fragment
  · exact isVisible_of_isAuthorityChar (isAuthorityChar_of_mem authority)
  · exact (plain_of_mem_path path).1
  · rcases mem_announced query with rfl | ⟨text, there, hc⟩
    · rfl
    · exact (plain_of_mem_query there hc).1
  · rcases mem_announced fragment with rfl | ⟨text, there, hc⟩
    · rfl
    · exact List.all_eq_true.mp (w.fragment_plain text there) c hc

theorem head_ending (h : c ∈ w.ending.toList.head?) : c = '?' ∨ c = '#' := by
  rw [ending, String.toList_append, List.head?_append] at h
  cases start : (announced '?' w.query).toList.head? with
  | none =>
    rw [start, Option.none_or] at h
    exact .inr (head_announced h)
  | some d =>
    rw [start, Option.some_or] at h
    exact .inl (head_announced (start.trans h))

theorem head_path_ending (h : c ∈ (w.path ++ w.ending).toList.head?) :
    c = '/' ∨ c = '?' ∨ c = '#' := by
  rw [String.toList_append, List.head?_append] at h
  cases start : w.path.toList.head? with
  | none =>
    rw [start, Option.none_or] at h
    exact .inr (head_ending h)
  | some d =>
    rw [start, Option.some_or] at h
    exact .inl (slash_of_head_path (start.trans h))

/-- What comes before the ending is what stands before a number sign and a question mark. -/
theorem cut_ending (free : ∀ c ∈ front, c ≠ '?' ∧ c ≠ '#') :
    ((front ++ w.ending.toList).takeWhile (· != '#')).takeWhile (· != '?') = front := by
  have unmarked : ∀ c ∈ front ++ (announced '?' w.query).toList, (c != '#') = true := by
    intro c hc
    rw [bne_iff_ne]
    rcases List.mem_append.mp hc with ahead | query
    · exact (free c ahead).2
    · rcases mem_announced query with rfl | ⟨text, there, hc⟩
      · decide
      · exact (plain_of_mem_query there hc).2
  have fragment : ∀ c ∈ (announced '#' w.fragment).toList.head?, (c != '#') = false :=
    fun c hc => bne_eq_false_iff_eq.mpr (head_announced hc)
  have query : ∀ c ∈ (announced '?' w.query).toList.head?, (c != '?') = false :=
    fun c hc => bne_eq_false_iff_eq.mpr (head_announced hc)
  rw [ending, String.toList_append, ← List.append_assoc,
    takeWhile_append_stop unmarked fragment,
    takeWhile_append_stop (fun c hc => bne_iff_ne.mpr (free c hc).1) query]

/-- After a scheme, host with port and path are found. -/
theorem ofText_schemed {scheme : String} (named : isSchemeName scheme = true) :
    Location.ofText (scheme ++ "://" ++ w.body) = .ok ⟨w.authority, w.path⟩ := by
  rw [isSchemeName, Bool.and_eq_true, List.all_eq_true] at named
  have host : ∀ c ∈ scheme.toList, isHostChar c = true := by
    intro c hc
    simp [isHostChar, named.2 c hc]
  have chars : (scheme ++ "://" ++ w.body).toList = scheme.toList ++
      ':' :: '/' :: '/' :: (w.authority.toList ++ (w.path ++ w.ending).toList) := by
    simp [body]
  have shown : "://".toList.all isVisible = true := by decide
  have visible : ∀ c ∈ (scheme ++ "://" ++ w.body).toList, isVisible c = true := by
    intro c hc
    rw [String.toList_append, String.toList_append, List.mem_append, List.mem_append] at hc
    rcases hc with (ahead | slashes) | body
    · exact (plain_of_isHostChar (host c ahead)).1
    · exact List.all_eq_true.mp shown c slashes
    · exact isVisible_of_mem_body body
  have outside : ∀ {d}, isAuthorityChar d = false → ∀ c ∈ w.authority.toList, c ≠ d :=
    fun out c hc => ne_of_test (isAuthorityChar_of_mem hc) out
  have cut : takeAuthority (dropScheme (scheme ++ "://" ++ w.body).toList) =
      (w.authority.toList, (w.path ++ w.ending).toList) := by
    rw [chars, dropScheme_schemed named.1 fun c hc => (plain_of_isHostChar (host c hc)).2.1]
    exact takeAuthority_slashes
      (fun c hc => ⟨outside rfl c hc, outside rfl c hc, outside rfl c hc⟩)
      fun c hc => head_path_ending hc
  rw [Location.ofText_eq visible cut fun c hc => isAuthorityChar_of_mem hc, String.toList_append,
    cut_ending fun c hc => (plain_of_mem_path hc).2, String.ofList_toList, String.ofList_toList]

theorem exists_head_host (w : WrittenLocation) :
    ∃ first rest, w.host.toList = first :: rest ∧ first.isAlphanum = true := by
  have named := w.host_named
  rw [isHostName, Bool.and_eq_true] at named
  cases chars : w.host.toList with
  | nil => simp [chars] at named
  | cons first rest =>
    rw [chars] at named
    exact ⟨first, rest, rfl, named.1⟩

/-- A location starts with a letter or a digit. -/
theorem exists_head_text (w : WrittenLocation) :
    ∃ first, w.text.toList.head? = some first ∧ first.isAlphanum = true := by
  cases given : w.scheme with
  | none =>
    obtain ⟨first, rest, start, letter⟩ := w.exists_head_host
    exact ⟨first, by simp [text, body, authority, given, start], letter⟩
  | some scheme =>
    have named := w.scheme_named scheme given
    rw [isSchemeName, Bool.and_eq_true] at named
    cases chars : scheme.toList with
    | nil => simp [chars] at named
    | cons first rest =>
      rw [chars] at named
      have letter : first.isAlpha = true := named.1
      exact ⟨first, by simp [text, given, chars], by simp [Char.isAlphanum, letter]⟩

theorem authority_of_port (given : w.port = some port) :
    w.authority.toList = w.host.toList ++ ':' :: port.toList := by
  simp [authority, announced, given]

theorem exists_head_stem (w : WrittenLocation) :
    ∃ first rest, w.stem.toList = first :: rest ∧ isHostChar first = true := by
  obtain ⟨first, rest, start, _⟩ := w.exists_head_host
  have named : isHostChar first = true := isHostChar_of_mem_host (start ▸ List.mem_cons_self)
  unfold stem
  split
  next => exact ⟨first, rest, start, named⟩
  next port given =>
    split
    next =>
      obtain ⟨nonempty, numbered⟩ := digits_of_port given
      obtain ⟨digit, digits, chars⟩ := List.exists_cons_of_ne_nil nonempty
      have within : digit ∈ port.toList := chars ▸ List.mem_cons_self
      exact ⟨digit, digits, chars, isHostChar_of_isDigit (numbered digit within)⟩
    next =>
      exact ⟨first, rest ++ ':' :: port.toList, by simp [authority_of_port given, start], named⟩

theorem mem_authority_of_mem_stem (h : c ∈ w.stem.toList) : c ∈ w.authority.toList := by
  unfold stem at h
  split at h
  next => exact String.toList_append ▸ List.mem_append_left _ h
  next port given =>
    split at h
    next =>
      rw [authority_of_port given]
      exact List.mem_append_right _ (List.mem_cons_of_mem _ h)
    next => exact h

theorem dropScheme_body (w : WrittenLocation) :
    dropScheme w.body.toList = w.stem.toList ++ (w.path ++ w.ending).toList := by
  have named : ∀ c ∈ w.host.toList, isSchemeChar c = true :=
    fun c hc => (plain_of_isHostChar (isHostChar_of_mem_host hc)).2.1
  cases given : w.port with
  | none =>
    have chars : w.body.toList = w.host.toList ++ (w.path ++ w.ending).toList := by
      simp [body, authority, announced, given]
    have stop : ∀ c ∈ (w.path ++ w.ending).toList.head?, c ≠ ':' ∧ isSchemeChar c = false := by
      intro c hc
      rcases head_path_ending hc with rfl | rfl | rfl <;> decide
    rw [chars, dropScheme_of_stop (fun c hc => ne_of_test (named c hc) rfl) stop, stem, given]
  | some port =>
    have chars : w.body.toList =
        w.host.toList ++ ':' :: (port.toList ++ (w.path ++ w.ending).toList) := by
      simp [body, authority_of_port given]
    cases letter : w.host.toList.head?.any Char.isAlpha with
    | true =>
      rw [chars, dropScheme_schemed letter named]
      simp [stem, given, letter]
    | false =>
      have start : w.body.toList.head?.any Char.isAlpha = false := by
        obtain ⟨first, rest, host, _⟩ := w.exists_head_host
        simpa [chars, host] using letter
      rw [dropScheme_of_head start, chars]
      simp [stem, given, letter, authority_of_port given]

/-- Without a scheme no authority is found, and what stands before the path counts to it. -/
theorem ofText_unschemed (w : WrittenLocation) :
    Location.ofText w.body = .ok ⟨"", w.stem ++ w.path⟩ := by
  obtain ⟨first, rest, start, named⟩ := w.exists_head_stem
  have cut : takeAuthority (dropScheme w.body.toList) =
      ([], w.stem.toList ++ (w.path ++ w.ending).toList) := by
    rw [dropScheme_body]
    apply takeAuthority_of_head
    rw [start]
    rintro c ⟨⟩
    exact ne_of_test named rfl
  have free : ∀ c ∈ (w.stem ++ w.path).toList, c ≠ '?' ∧ c ≠ '#' := by
    intro c hc
    rcases List.mem_append.mp (String.toList_append ▸ hc) with ahead | path
    · have plain := isAuthorityChar_of_mem (mem_authority_of_mem_stem ahead)
      exact ⟨ne_of_test plain rfl, ne_of_test plain rfl⟩
    · exact (plain_of_mem_path path).2
  rw [Location.ofText_eq (fun c hc => isVisible_of_mem_body hc) cut (by simp),
    String.toList_append, ← List.append_assoc, ← String.toList_append, cut_ending free,
    String.ofList_toList]

/-- The host of a location is the one that is written, in small letters. -/
theorem host_eq (w : WrittenLocation) (path : String) :
    Location.host ⟨w.authority, path⟩ = lowercase w.host := by
  have absent : ∀ {d}, isAuthorityChar d = false → d ∉ w.authority.toList :=
    fun out hd => ne_of_test (isAuthorityChar_of_mem hd) out rfl
  have named : ∀ {d}, isHostChar d = false → ∀ c ∈ w.host.toList, (c != d) = true :=
    fun out c hc => bne_iff_ne.mpr (ne_of_test (isHostChar_of_mem_host hc) out)
  have port : ∀ c ∈ (announced ':' w.port).toList.head?, (c != ':') = false :=
    fun c hc => bne_eq_false_iff_eq.mpr (head_announced hc)
  have server : w.authority.toList.takeWhile (· != ':') = w.host.toList := by
    rw [authority, String.toList_append, takeWhile_append_stop (named rfl) port]
  have unbracketed : w.authority.toList.contains '[' = false := by
    simpa using absent (d := '[') rfl
  have whole : w.host.toList.takeWhile (· != '%') = w.host.toList :=
    List.takeWhile_eq_self_iff.mpr (named rfl)
  have nothing : w.host.toList.dropWhile (· != '%') = [] :=
    List.dropWhile_eq_nil_iff.mpr (named rfl)
  rw [Location.host]
  simp only [afterLast_of_not_mem (absent (d := '@') rfl), unbracketed, server,
    Bool.false_eq_true, if_false, whole, nothing, String.ofList_toList]
  exact String.append_empty

theorem toList_lowercase_host (w : WrittenLocation) :
    (lowercase w.host).toList = w.host.toList.map lowerChar := by
  have steady : ∀ c ∈ w.host.toList, IsSteady c := by
    intro c hc
    have named := isHostChar_of_mem_host hc
    exact ⟨ne_of_test named rfl, ne_of_test named rfl⟩
  rw [lowercase, String.toList_ofList, lowerAfter_of_steady steady]

theorem not_colon_suffix_authority (w : WrittenLocation) : ¬[':'] <:+ w.authority.toList := by
  rintro ⟨front, ends⟩
  have last : w.authority.toList.getLast? = some ':' := by rw [← ends, List.getLast?_concat]
  cases given : w.port with
  | none =>
    have host : w.authority = w.host := by simp [authority, announced, given]
    rw [host] at last
    exact absurd rfl (ne_of_test (isHostChar_of_mem_host (List.mem_of_getLast? last)) rfl)
  | some port =>
    obtain ⟨nonempty, numbered⟩ := digits_of_port given
    rw [authority_of_port given, List.append_cons,
      List.getLast?_append_of_ne_nil _ nonempty] at last
    exact absurd rfl (ne_of_test (numbered ':' (List.mem_of_getLast? last)) rfl)

/-- The mark of a scheme does not stand in an authority, nor does it start there. -/
theorem mark_infix_authority_append (w : WrittenLocation) :
    "://".toList <:+: w.authority.toList ++ back ↔ "://".toList <:+: back := by
  have slashless : '/' ∉ w.authority.toList :=
    fun hc => ne_of_test (isAuthorityChar_of_mem hc) rfl rfl
  have absent : ¬"://".toList <:+: w.authority.toList :=
    fun within => slashless (within.subset (by decide))
  rw [List.infix_append_iff, or_iff_right absent]
  apply or_iff_left_of_imp
  rintro ⟨near, far, cut, ends, starts⟩
  -- the part of the mark at the end of the authority: nothing, a colon, or more
  rcases near with _ | ⟨c, _ | ⟨d, near⟩⟩
  · rw [cut]
    exact starts.isInfix
  · obtain rfl : ':' = c := (List.cons.inj cut).1
    exact absurd ends w.not_colon_suffix_authority
  · obtain rfl : '/' = d := (List.cons.inj (List.cons.inj cut).2).1
    exact absurd (ends.subset (by simp)) slashless

theorem contains_mark_body_iff (w : WrittenLocation) :
    contains "://" w.body = true ↔ contains "://" w.path = true ∨
      (∃ text ∈ w.query, contains "://" text = true) ∨
      ∃ text ∈ w.fragment, contains "://" text = true := by
  have query : '?' ∉ "://".toList := by decide
  have fragment : '#' ∉ "://".toList := by decide
  have marked : ∀ c ∈ w.ending.toList.head?, c ∉ "://".toList := by
    intro c hc
    rcases head_ending hc with rfl | rfl
    · exact query
    · exact fragment
  have second : ∀ c ∈ (announced '#' w.fragment).toList.head?, c ∉ "://".toList :=
    fun c hc => head_announced hc ▸ fragment
  simp only [ contains_iff_infix]
  rw [body, String.toList_append, String.toList_append, List.append_assoc,
    mark_infix_authority_append, infix_append_of_stop marked, ending, String.toList_append,
    infix_append_of_stop second, infix_announced_iff (by decide) query,
    infix_announced_iff (by decide) fragment]

end WrittenLocation

end EmulatedShell

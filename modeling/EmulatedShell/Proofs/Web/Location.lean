import EmulatedShell.Proofs.Pieces
import EmulatedShell.Web.Location

namespace EmulatedShell

/-- A printable character of ASCII that is no space. -/
def isVisible (c : Char) : Bool := '!' ≤ c && c ≤ '~'

/-- A character that the name of a host may hold. -/
def isHostChar (c : Char) : Bool := c.isAlphanum || c = '-' || c = '.'

/-- A character of a host with a port. -/
def isAuthorityChar (c : Char) : Bool := isHostChar c || c = ':'

variable {c d : Char} {text front back authority rest : List Char} {test : Char → Bool}

theorem code_of_isVisible (visible : isVisible c = true) : 33 ≤ c.toNat ∧ c.toNat ≤ 126 := by
  rw [isVisible, Bool.and_eq_true, decide_eq_true_eq, decide_eq_true_eq] at visible
  exact ⟨UInt32.le_iff_toNat_le.mp visible.1, UInt32.le_iff_toNat_le.mp visible.2⟩

theorem code_of_isAlphanum (h : c.isAlphanum = true) : c.toNat < 128 := by
  rcases Bool.or_eq_true_iff.mp h with letter | digit
  · rcases Bool.or_eq_true_iff.mp letter with capital | small
    · have most : c.toNat ≤ 'Z'.toNat := UInt32.le_iff_toNat_le.mp (of_decide_eq_true capital).2
      exact Nat.lt_of_le_of_lt most (by decide)
    · have bounds := Bool.and_eq_true_iff.mp small
      have most : c.toNat ≤ 'z'.toNat := UInt32.le_iff_toNat_le.mp (of_decide_eq_true bounds.2)
      exact Nat.lt_of_le_of_lt most (by decide)
  · have most : c.toNat ≤ '9'.toNat := (Char.isDigit_iff_toNat.mp digit).2
    exact Nat.lt_of_le_of_lt most (by decide)

theorem code_of_isHostChar (h : isHostChar c = true) : c.toNat < 128 := by
  simp only [isHostChar, Bool.or_eq_true, decide_eq_true_eq] at h
  rcases h with (letter | rfl) | rfl
  · exact code_of_isAlphanum letter
  · decide
  · decide

theorem hostCodes_plain : ∀ code < 128, isHostChar (Char.ofNat code) = true →
    isVisible (Char.ofNat code) = true ∧ isSchemeChar (Char.ofNat code) = true ∧
      isBlank (Char.ofNat code) = false := by
  decide

theorem plain_of_isHostChar (h : isHostChar c = true) :
    isVisible c = true ∧ isSchemeChar c = true ∧ isBlank c = false := by
  have checked := hostCodes_plain c.toNat (code_of_isHostChar h)
  rw [Char.ofNat_toNat] at checked
  exact checked h

theorem isHostChar_of_isDigit (h : c.isDigit = true) : isHostChar c = true := by
  simp [isHostChar, Char.isAlphanum, h]

theorem not_hidesDelimiter_of_isVisible (visible : isVisible c = true) :
    hidesDelimiter c = false := by
  have beyond : ∀ code ∈ delimiterLookalikes, 126 < code := by decide
  have code := code_of_isVisible visible
  rw [hidesDelimiter, Bool.eq_false_iff]
  intro lookalike
  have := beyond c.toNat (List.contains_iff_mem.mp lookalike)
  omega

theorem ne_of_test (h : test c = true) (hd : test d = false) : c ≠ d := by
  rintro rfl
  rw [h] at hd
  cases hd

theorem dropScheme_schemed (letter : front.head?.any Char.isAlpha = true)
    (plain : ∀ c ∈ front, isSchemeChar c = true) : dropScheme (front ++ ':' :: rest) = rest := by
  have pass : ∀ c ∈ front, (c != ':') = true :=
    fun c hc => bne_iff_ne.mpr (ne_of_test (plain c hc) (by decide))
  have stop : ∀ c ∈ (':' :: rest).head?, (c != ':') = false := by simp
  cases front with
  | nil => cases letter
  | cons first front =>
    rw [dropScheme, takeWhile_append_stop pass stop, dropWhile_append_stop pass stop]
    have named : (first.isAlpha && (first :: front).all isSchemeChar) = true :=
      Bool.and_eq_true_iff.mpr ⟨letter, List.all_eq_true.mpr plain⟩
    exact if_pos named

theorem dropScheme_unschemed (h : ∀ first scheme, text.takeWhile (· != ':') = first :: scheme →
    first.isAlpha = true → ¬∀ c ∈ first :: scheme, isSchemeChar c = true) :
    dropScheme text = text := by
  unfold dropScheme
  dsimp only
  split
  next =>
    split
    next first scheme start =>
      apply if_neg
      rw [start, Bool.and_eq_true, List.all_eq_true]
      exact fun named => h first scheme start named.1 named.2
    next => rfl
  next => rfl

theorem dropScheme_of_head (start : text.head?.any Char.isAlpha = false) :
    dropScheme text = text := by
  apply dropScheme_unschemed
  intro first scheme taken letter
  have whole : first :: scheme ++ text.dropWhile (· != ':') = text := by
    rw [← taken, List.takeWhile_append_dropWhile]
  rw [← whole, List.cons_append, List.head?_cons, Option.any_some, letter] at start
  cases start

theorem dropScheme_of_stop (free : ∀ c ∈ front, c ≠ ':')
    (stop : ∀ c ∈ back.head?, c ≠ ':' ∧ isSchemeChar c = false) :
    dropScheme (front ++ back) = front ++ back := by
  have pass : ∀ c ∈ front, (c != ':') = true := fun c hc => bne_iff_ne.mpr (free c hc)
  cases back with
  | nil =>
    have ends : (front ++ []).dropWhile (· != ':') = [] := dropWhile_append_stop pass (by simp)
    rw [dropScheme, ends]
  | cons c rest =>
    obtain ⟨other, odd⟩ := stop c rfl
    apply dropScheme_unschemed
    intro first scheme taken letter plain
    have more : (c :: rest).takeWhile (· != ':') = c :: rest.takeWhile (· != ':') :=
      List.takeWhile_cons_of_pos (bne_iff_ne.mpr other)
    rw [List.takeWhile_append_of_pos pass, more] at taken
    have within : c ∈ first :: scheme := taken ▸ List.mem_append_right _ List.mem_cons_self
    rw [plain c within] at odd
    cases odd

theorem takeAuthority_slashes (pass : ∀ c ∈ authority, c ≠ '/' ∧ c ≠ '?' ∧ c ≠ '#')
    (stop : ∀ c ∈ rest.head?, c = '/' ∨ c = '?' ∨ c = '#') :
    takeAuthority ('/' :: '/' :: (authority ++ rest)) = (authority, rest) := by
  have inside : ∀ c ∈ authority, (c != '/' && c != '?' && c != '#') = true := by
    simpa [and_assoc] using pass
  have outside : ∀ c ∈ rest.head?, (c != '/' && c != '?' && c != '#') = false := by
    intro c hc
    rcases stop c hc with rfl | rfl | rfl <;> rfl
  rw [takeAuthority]
  exact Prod.ext (takeWhile_append_stop inside outside) (dropWhile_append_stop inside outside)

theorem takeAuthority_of_head (start : ∀ c ∈ text.head?, c ≠ '/') :
    takeAuthority text = ([], text) := by
  unfold takeAuthority
  split
  next => exact absurd rfl (start '/' rfl)
  next => rfl

theorem isVisible_of_isAuthorityChar (h : isAuthorityChar c = true) : isVisible c = true := by
  rw [isAuthorityChar, Bool.or_eq_true, decide_eq_true_eq] at h
  rcases h with named | rfl
  · exact (plain_of_isHostChar named).1
  · rfl

theorem Location.ofText_eq {text : String} (visible : ∀ c ∈ text.toList, isVisible c = true)
    (cut : takeAuthority (dropScheme text.toList) = (authority, rest))
    (plain : ∀ c ∈ authority, isAuthorityChar c = true) :
    ofText text = .ok ⟨String.ofList authority,
      String.ofList ((rest.takeWhile (· != '#')).takeWhile (· != '?'))⟩ := by
  have kept : (text.toList.filter fun c => c != '\t' && c != '\r' && c != '\n') = text.toList := by
    apply List.filter_eq_self.mpr
    intro c hc
    have shown := visible c hc
    simp [ne_of_test shown (d := '\t') rfl, ne_of_test shown (d := '\r') rfl,
      ne_of_test shown (d := '\n') rfl]
  have absent : ∀ {d}, isAuthorityChar d = false → d ∉ authority :=
    fun out hd => ne_of_test (plain _ hd) out rfl
  have paired : checkBrackets authority = .ok () := by
    simp [checkBrackets, absent (d := '[') rfl, absent (d := ']') rfl]
  have unhidden : authority.any hidesDelimiter = false := by
    rw [List.any_eq_false]
    intro c hc
    simp [not_hidesDelimiter_of_isVisible (isVisible_of_isAuthorityChar (plain c hc))]
  rw [ofText, kept, cut]
  simp only [paired, unhidden]
  rfl

theorem afterLast_of_not_mem (absent : c ∉ text) : afterLast c text = text := by
  have all : ∀ d ∈ text.reverse, (d != c) = true :=
    fun d hd => bne_iff_ne.mpr fun same => absent (List.mem_reverse.mp (same ▸ hd))
  rw [afterLast, List.takeWhile_eq_self_iff.mpr all, List.reverse_reverse]

theorem afterLast_append_cons (absent : c ∉ back) : afterLast c (front ++ c :: back) = back := by
  have pass : ∀ d ∈ back.reverse, (d != c) = true :=
    fun d hd => bne_iff_ne.mpr fun same => absent (List.mem_reverse.mp (same ▸ hd))
  have stop : ∀ d ∈ (c :: front.reverse).head?, (d != c) = false := by simp
  have reversed : (front ++ c :: back).reverse = back.reverse ++ c :: front.reverse := by simp
  rw [afterLast, reversed, takeWhile_append_stop pass stop, List.reverse_reverse]

theorem Location.host_of_no_authority (path : String) : host ⟨"", path⟩ = "" := by
  simp [host, afterLast, lowercase, lowerAfter]

theorem Location.fileName_eq (location : Location) :
    location.fileName = lastPiece location.path := by
  by_cases present : '/' ∈ location.path.toList
  · obtain ⟨front, back, absent, cut⟩ := exists_last_slash present
    have chars : location.path.toList = front.toList ++ '/' :: back.toList := by simp [cut]
    rw [fileName, chars, afterLast_append_cons absent, String.ofList_toList, cut,
      lastPiece_append_slash, lastPiece_of_not_mem absent]
  · rw [fileName, afterLast_of_not_mem present, String.ofList_toList, lastPiece_of_not_mem present]

end EmulatedShell

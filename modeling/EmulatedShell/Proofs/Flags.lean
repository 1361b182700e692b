import EmulatedShell.Command
import Mathlib.Data.List.TakeWhile

namespace EmulatedShell

/-- The token after the first occurrence of a flag. -/
def tokenAfter (flag : String) (args : List String) : Option String :=
  (args.dropWhile (· != flag))[1]?

variable {flag value : String} {args front rest : List String} {c : Command}

theorem tokenAfter_of_split (first : flag ∉ front) :
    tokenAfter flag (front ++ flag :: rest) = rest.head? := by
  have passed : ∀ token ∈ front, (token != flag) = true :=
    fun token ht => bne_iff_ne.mpr fun same => first (same ▸ ht)
  rw [tokenAfter, List.dropWhile_append_of_pos passed, List.dropWhile_cons_of_neg (by simp),
    List.getElem?_cons_succ, List.head?_eq_getElem?]

theorem tokenAfter_cons : tokenAfter flag (flag :: rest) = rest.head? :=
  have ahead : flag ∉ ([] : List String) := List.not_mem_nil
  tokenAfter_of_split ahead

theorem tokenAfter_of_not_mem (absent : flag ∉ args) : tokenAfter flag args = none := by
  have passed : args.dropWhile (· != flag) = [] :=
    List.dropWhile_eq_nil_iff.mpr fun token ht => bne_iff_ne.mpr fun same => absent (same ▸ ht)
  rw [tokenAfter, passed, List.getElem?_nil]

theorem parseInt_filter (text : Option String) (default : Int) :
    parseInt (text.filter (· != "")) default = parseInt text default := by
  cases text with
  | none => rfl
  | some text =>
    by_cases empty : text = ""
    · subst empty
      rfl
    · rw [Option.filter_some, if_pos (bne_iff_ne.mpr empty)]

namespace Command

theorem arg_of_getElem? {index : Nat} (h : c.args[index]? = some value) (nonempty : value ≠ "") :
    c.arg index = some value := by
  rw [arg, h, Option.filter_some, if_pos (bne_iff_ne.mpr nonempty)]

theorem valuePlace_of_split (h : c.args = front ++ flag :: rest) (first : flag ∉ front) :
    c.valuePlace flag = some (front.length + 1) := by
  have ahead : front.findIdx? (· == flag) = none := List.idxOf?_eq_none_iff.mpr first
  have there : (flag :: rest).findIdx? (· == flag) = some 0 := by simp [List.findIdx?_cons]
  have place : c.args.idxOf? flag = some front.length := by
    rw [h, List.idxOf?, List.findIdx?_append, ahead, there]
    simp
  rw [valuePlace, place, Option.map_some]

theorem valuePlace_of_not_mem (absent : flag ∉ c.args) : c.valuePlace flag = none := by
  rw [valuePlace, List.idxOf?_eq_none_iff.mpr absent, Option.map_none]

/-- The integer of a flag is read from the token after its first occurrence. -/
theorem intFlag_eq (c : Command) (flag : String) (default : Int) :
    c.intFlag flag default = parseInt (tokenAfter flag c.args) default := by
  by_cases present : flag ∈ c.args
  · obtain ⟨front, rest, h, first⟩ := List.eq_append_cons_of_mem present
    have token : c.args[front.length + 1]? = rest.head? := by
      rw [h, List.getElem?_append_right (by omega)]
      simp [List.head?_eq_getElem?]
    rw [intFlag, flagValue, valuePlace_of_split h first, Option.bind_some, arg, token, h,
      tokenAfter_of_split first, parseInt_filter]
  · rw [intFlag, flagValue, valuePlace_of_not_mem present, tokenAfter_of_not_mem present]
    rfl

theorem intFlag_first (default : Int) (h : c.args = flag :: value :: args) :
    c.intFlag flag default = parseInt (some value) default := by
  rw [intFlag_eq, h, tokenAfter_cons, List.head?_cons]

end Command

end EmulatedShell

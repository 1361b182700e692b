import EmulatedShell.Cabinet
import EmulatedShell.Proofs.Registration

namespace EmulatedShell

/-- The handlers of the built-in commands, in the order in which they were registered. -/
def builtinRegistrations : List (String × Handler) :=
  builtinCommands.map fun pair => (pair.1, pair.2.handler)

theorem builtinHandlers_eq_ofList : builtinHandlers = Table.ofList builtinRegistrations :=
  Table.map_ofList Utility.handler builtinCommands

/-- What was registered in the table of a name, and before that in the one which it was copied from,
up to the copy. The latest operation comes first. -/
def lineage (name : String) : List TableOperation → Option (List (String × Handler))
  | [] => none
  | .new table :: earlier => if name = table then some [] else lineage name earlier
  | .builtin table :: earlier =>
    if name = table then some builtinRegistrations else lineage name earlier
  | .register table command handler :: earlier =>
    if name = table then (lineage name earlier).map (· ++ [(command, handler)])
    else lineage name earlier
  | .copy table other :: earlier =>
    if name = other then lineage table earlier <|> lineage other earlier
    else lineage name earlier

namespace Cabinet

/-- The built-in table stands in its place, and every name leads to a place of its own elsewhere. -/
structure Separate (c : Cabinet) : Prop where
  first : c.tables.head? = some builtinHandlers
  placed : ∀ name place, c.places.get? name = some place → 0 < place ∧ place < c.tables.length
  apart : ∀ name other place, c.places.get? name = some place →
    c.places.get? other = some place → name = other

variable {c : Cabinet} {name other command : String} {place : Nat} {handler : Handler}
  {t : HandlerTable}

theorem separate_initial : initial.Separate := by
  constructor
  case first => rfl
  case placed =>
    intro name place h
    cases h
  case apart =>
    intro name other place h
    cases h

namespace Separate

theorem builtin_eq (h : c.Separate) : c.builtin = builtinHandlers := by
  rw [builtin, List.headD_eq_head?_getD, h.first, Option.getD_some]

theorem length_pos (h : c.Separate) : 0 < c.tables.length := by
  have first := h.first
  cases ht : c.tables with
  | nil => simp [ht] at first
  | cons t rest => simp

theorem fresh (h : c.Separate) (name : String) : c.places.get? name ≠ some c.tables.length := by
  intro there
  have bound := (h.placed name _ there).2
  omega

/-- A table that is added is found under its name, and all others where they were. -/
theorem table?_add (h : c.Separate) (name other : String) (t : HandlerTable) :
    (c.add name t).table? other = if other = name then some t else c.table? other := by
  rw [table?, add, Table.get?_insert]
  split
  next => simp
  next =>
    rw [table?]
    cases hp : c.places.get? other with
    | none => rfl
    | some place =>
      have bound := (h.placed other place hp).2
      rw [Option.bind_some, Option.bind_some, List.getElem?_append_left bound]

/-- A handler that is put at the place of a name is put into the table of that name alone. -/
theorem table?_putAt (h : c.Separate) (hp : c.places.get? name = some place) (other : String) :
    (c.putAt place command handler).table? other =
      if other = name then (c.table? other).map (·.insert command handler)
      else c.table? other := by
  rw [table?, putAt, table?]
  cases ho : c.places.get? other with
  | none => simp
  | some second =>
    rw [Option.bind_some, Option.bind_some, List.getElem?_modify]
    by_cases same : other = name
    · have places : place = second := by
        subst same
        exact Option.some.inj (hp.symm.trans ho)
      simp [same, places]
    · have places : place ≠ second := by
        rintro rfl
        exact same (h.apart other name place ho hp)
      cases c.tables[second]? <;> simp [same, places]

theorem add (h : c.Separate) (name : String) (t : HandlerTable) : (c.add name t).Separate := by
  have positive := h.length_pos
  constructor
  case first => rw [Cabinet.add, List.head?_append, h.first, Option.some_or]
  case placed =>
    intro n place hp
    rw [Cabinet.add, Table.get?_insert] at hp
    rw [Cabinet.add, List.length_append, List.length_singleton]
    split at hp
    next =>
      have last := Option.some.inj hp
      omega
    next =>
      have bounds := h.placed n place hp
      omega
  case apart =>
    intro n m place hn hm
    rw [Cabinet.add, Table.get?_insert] at hn hm
    by_cases first : n = name <;> by_cases second : m = name
    · rw [first, second]
    · rw [if_pos first] at hn
      rw [if_neg second] at hm
      exact absurd (hm.trans hn.symm) (h.fresh m)
    · rw [if_neg first] at hn
      rw [if_pos second] at hm
      exact absurd (hn.trans hm.symm) (h.fresh n)
    · rw [if_neg first] at hn
      rw [if_neg second] at hm
      exact h.apart n m place hn hm

theorem putAt (h : c.Separate) (positive : 0 < place) :
    (c.putAt place command handler).Separate := by
  constructor
  case first =>
    have first := h.first
    rw [List.head?_eq_getElem?] at first ⊢
    rw [Cabinet.putAt, List.getElem?_modify, first]
    have elsewhere : place ≠ 0 := by omega
    simp [elsewhere]
  case placed =>
    intro n m hm
    rw [Cabinet.putAt, List.length_modify]
    exact h.placed n m hm
  case apart => exact h.apart

theorem perform (h : c.Separate) (operation : TableOperation) : (c.perform operation).Separate := by
  cases operation with
  | new table => exact h.add table .empty
  | builtin table => exact h.add table c.builtin
  | register table command handler =>
    rw [Cabinet.perform]
    split
    next place hp => exact h.putAt (h.placed table place hp).1
    next => exact h
  | copy table other =>
    rw [Cabinet.perform]
    split
    next t _ => exact h.add other t
    next => exact h

theorem table?_new (h : c.Separate) (table name : String) :
    (c.perform (.new table)).table? name = if name = table then some .empty else c.table? name :=
  h.table?_add table name .empty

theorem table?_builtin (h : c.Separate) (table name : String) :
    (c.perform (.builtin table)).table? name =
      if name = table then some builtinHandlers else c.table? name := by
  rw [Cabinet.perform, h.table?_add, h.builtin_eq]

theorem table?_register (h : c.Separate) (table command : String) (handler : Handler)
    (name : String) : (c.perform (.register table command handler)).table? name =
      if name = table then (c.table? name).map (·.insert command handler) else c.table? name := by
  cases hp : c.places.get? table with
  | some place =>
    simp only [Cabinet.perform, hp]
    exact h.table?_putAt hp name
  | none =>
    have missing : c.table? table = none := by rw [table?, hp, Option.bind_none]
    simp only [Cabinet.perform, hp]
    split
    next same => rw [same, missing, Option.map_none]
    next => rfl

theorem table?_copy (h : c.Separate) (table other name : String) :
    (c.perform (.copy table other)).table? name =
      if name = other then c.table? table <|> c.table? other else c.table? name := by
  cases ht : c.table? table with
  | some t =>
    simp only [Cabinet.perform, ht]
    exact h.table?_add other name t
  | none =>
    simp only [Cabinet.perform, ht]
    split
    next same =>
      rw [same]
      rfl
    next => rfl

theorem table?_of_untouched (h : c.Separate) {operation : TableOperation}
    (untouched : operation.target ≠ name) : (c.perform operation).table? name = c.table? name := by
  have other : name ≠ operation.target := Ne.symm untouched
  cases operation with
  | new table => exact (h.table?_new table name).trans (if_neg other)
  | builtin table => exact (h.table?_builtin table name).trans (if_neg other)
  | register table command handler =>
    exact (h.table?_register table command handler name).trans (if_neg other)
  | copy table copied => exact (h.table?_copy table copied name).trans (if_neg other)

end Separate

/-- Every table is filled with what its lineage says. -/
theorem performAll_lineage (operations : List TableOperation) :
    (initial.performAll operations).Separate ∧ ∀ name,
      (initial.performAll operations).table? name =
        (lineage name operations.reverse).map Table.ofList := by
  induction operations using List.reverseRecOn with
  | nil => exact ⟨separate_initial, fun name => rfl⟩
  | append_singleton operations operation ih =>
    obtain ⟨separate, filled⟩ := ih
    have last : initial.performAll (operations ++ [operation]) =
        (initial.performAll operations).perform operation := List.foldl_concat ..
    rw [last, List.reverse_append, List.reverse_singleton, List.singleton_append]
    refine ⟨separate.perform operation, fun name => ?_⟩
    cases operation with
    | new table =>
      rw [separate.table?_new, lineage]
      split
      next => rfl
      next => exact filled name
    | builtin table =>
      rw [separate.table?_builtin, lineage]
      split
      next => rw [builtinHandlers_eq_ofList, Option.map_some]
      next => exact filled name
    | register table command handler =>
      rw [separate.table?_register, lineage]
      split
      next =>
        rw [filled, Option.map_map, Option.map_map]
        congr 1
        funext past
        exact (Table.ofList_append past command handler).symm
      next => exact filled name
    | copy table other =>
      rw [separate.table?_copy, lineage]
      split
      next =>
        rw [filled, filled]
        cases lineage table operations.reverse <;> rfl
      next => exact filled name

/-- Every table answers as what was registered in its own lineage says, whatever is done with any
number of tables. An operation on one table makes no difference to another one, nor to the copies of
the built-in table that are made later. -/
theorem tables_stay_apart (operations : List TableOperation) :
    (∀ name past, lineage name operations.reverse = some past →
      ∃ t, (initial.performAll operations).table? name = some t ∧ t.Registers past) ∧
    (∀ name, lineage name operations.reverse = none →
      (initial.performAll operations).table? name = none) ∧
    (∀ operation name, operation.target ≠ name →
      ((initial.performAll operations).perform operation).table? name =
        (initial.performAll operations).table? name) ∧
    ∀ name, ((initial.performAll operations).perform (.builtin name)).table? name =
      some builtinHandlers := by
  obtain ⟨separate, filled⟩ := performAll_lineage operations
  refine ⟨?_, ?_, fun _ _ untouched => separate.table?_of_untouched untouched, ?_⟩
  · intro name past traced
    exact ⟨Table.ofList past, by rw [filled, traced, Option.map_some], Table.ofList_registers past⟩
  · intro name unmade
    rw [filled, unmade, Option.map_none]
  · intro name
    rw [separate.table?_builtin, if_pos rfl]

/-- A handler that says the same to everything. -/
def saying (output : String) : Handler := fun _ _ random => (.ok ⟨output, 0, none⟩, random)

/-- A table is copied, and then both are changed. -/
def partedWays : List TableOperation :=
  [.new "ours", .register "ours" "greet" (saying "hello"), .copy "ours" "theirs",
    .register "ours" "greet" (saying "good day"), .register "theirs" "leave" (saying "bye")]

theorem partedWays_tables_stay_apart :
    lineage "theirs" partedWays.reverse =
      some [("greet", saying "hello"), ("leave", saying "bye")] ∧
    (∃ t, (initial.performAll partedWays).table? "theirs" = some t ∧
      t.Registers [("greet", saying "hello"), ("leave", saying "bye")]) ∧
    lineage "nobody's" partedWays.reverse = none ∧
    (initial.performAll partedWays).table? "nobody's" = none ∧
    (TableOperation.register "ours" "leave" (saying "farewell")).target ≠ "theirs" ∧
    ((initial.performAll partedWays).perform
      (.register "ours" "leave" (saying "farewell"))).table? "theirs" =
        (initial.performAll partedWays).table? "theirs" := by
  have traced : lineage "theirs" partedWays.reverse =
      some [("greet", saying "hello"), ("leave", saying "bye")] := rfl
  have unmade : lineage "nobody's" partedWays.reverse = none := rfl
  have untouched : (TableOperation.register "ours" "leave" (saying "farewell")).target ≠
      "theirs" := by decide
  obtain ⟨answers, missing, apart, _⟩ := tables_stay_apart partedWays
  exact ⟨traced, answers _ _ traced, unmade, missing _ unmade, untouched, apart _ _ untouched⟩

end Cabinet

end EmulatedShell

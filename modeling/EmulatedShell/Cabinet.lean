import EmulatedShell.Commands.Builtin

namespace EmulatedShell

/-- The handler tables that were made so far, the built-in one before all others, and the place of
the one that goes by each name. A table that no name leads to any more keeps its place. -/
structure Cabinet where
  tables : List HandlerTable
  places : Table Nat

/-- What can be done with the tables of a cabinet. -/
inductive TableOperation where
  /-- An empty table is made. -/
  | new (table : String)
  /-- A copy of the built-in table is made. -/
  | builtin (table : String)
  /-- A handler is put under the name of a command. -/
  | register (table command : String) (handler : Handler)
  /-- A copy of a table is made. -/
  | copy (table other : String)

/-- The name of the table that an operation makes or changes. -/
def TableOperation.target : TableOperation → String
  | .new table | .builtin table | .register table _ _ => table
  | .copy _ other => other

namespace Cabinet

/-- The cabinet with the built-in table, which has no name. -/
def initial : Cabinet := ⟨[builtinHandlers], .empty⟩

/-- The table that goes by a name. -/
def table? (c : Cabinet) (name : String) : Option HandlerTable :=
  (c.places.get? name).bind fun place => c.tables[place]?

/-- The built-in table, as it is now. -/
def builtin (c : Cabinet) : HandlerTable := c.tables.headD .empty

/-- The cabinet with one more table, which goes by a name. -/
def add (name : String) (t : HandlerTable) (c : Cabinet) : Cabinet :=
  ⟨c.tables ++ [t], c.places.insert name c.tables.length⟩

/-- The cabinet with a handler put into the table at a place. -/
def putAt (place : Nat) (command : String) (handler : Handler) (c : Cabinet) : Cabinet :=
  { c with tables := c.tables.modify place fun t => t.insert command handler }

/-- An operation is carried out. Nothing is done to a table that there is not. -/
def perform (c : Cabinet) : TableOperation → Cabinet
  | .new table => c.add table .empty
  | .builtin table => c.add table c.builtin
  | .register table command handler =>
    match c.places.get? table with
    | some place => c.putAt place command handler
    | none => c
  | .copy table other =>
    match c.table? table with
    | some t => c.add other t
    | none => c

/-- Operations are carried out one after another. -/
def performAll (operations : List TableOperation) (c : Cabinet) : Cabinet :=
  operations.foldl perform c

end Cabinet

end EmulatedShell

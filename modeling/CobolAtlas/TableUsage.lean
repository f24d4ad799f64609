import CobolAtlas.Statement

/-!
# Use of tables

Which operations a program applies to each table, and which tables each cursor reads.

A dictionary gives tables a readable name. It is written as comma separated records of four
fields: table, its readable name, column, its readable name. A later record overrides an earlier
one, and a line with any other number of fields is no record.
-/

namespace CobolAtlas

/-! ### Dictionaries -/

structure Dictionary where
  /-- The tables with their readable names, each table once. -/
  entries : List (String × String) := []
  /-- The number of records read. -/
  records : Nat := 0
  deriving DecidableEq, Repr

namespace Dictionary

def put (table readable : String) : List (String × String) → List (String × String)
  | [] => [(table, readable)]
  | entry :: rest =>
    if entry.1 = table then (table, readable) :: rest else entry :: put table readable rest

def insert (dictionary : Dictionary) (table readable : String) : Dictionary :=
  ⟨put table readable dictionary.entries, dictionary.records + 1⟩

/-- The readable name of a table, empty if it has none. -/
def readable (dictionary : Dictionary) (table : String) : String :=
  ((dictionary.entries.find? fun entry => entry.1 = table).map Prod.snd).getD ""

def size (dictionary : Dictionary) : Nat :=
  dictionary.entries.length

/-- The table and the readable name of a line, if the line is a record. -/
def record? (line : String) : Option (String × String) :=
  match Text.fields ',' (Text.dropEndWhile (· = '\r') line) with
  | [table, readable, _, _] => some (table, readable)
  | _ => none

def ofText (text : String) : Dictionary :=
  ((Text.lines text).filterMap record?).foldl
    (fun dictionary record => dictionary.insert record.1 record.2) {}

end Dictionary

/-! ### Usages -/

structure TableFlags where
  read : Bool := false
  insert : Bool := false
  update : Bool := false
  delete : Bool := false
  create : Bool := false
  deriving DecidableEq, Repr

namespace TableFlags

def mark (flags : TableFlags) : Operation → TableFlags
  | .none => flags
  | .read => { flags with read := true }
  | .insert => { flags with insert := true }
  | .update => { flags with update := true }
  | .delete => { flags with delete := true }
  | .create => { flags with create := true }

end TableFlags

structure TableUsage where
  name : String
  /-- The name of the table in the dictionary. -/
  title : String
  flags : TableFlags
  deriving DecidableEq, Repr

namespace TableUsage

def flagsOf (table : String) (statements : List Statement) : TableFlags :=
  (statements.filter fun statement => statement.tables.contains table).foldl
    (fun flags statement => flags.mark statement.effect) {}

/-- The use of every table that statements name, in ascending order of the names. -/
def ofStatements (statements : List Statement) (dictionary : Dictionary) : List TableUsage :=
  (ascending (statements.flatMap Statement.tables)).map fun name =>
    ⟨name, dictionary.readable name, flagsOf name statements⟩

end TableUsage

structure CursorTables where
  cursor : String
  /-- The section that fetches the cursor, empty if none does. -/
  owner : String
  tables : List String
  deriving DecidableEq, Repr

namespace CursorTables

/-- The tables of a declaration in the data division. -/
def ofStatement? (statement : Statement) : Option CursorTables :=
  if statement.division = .data then
    statement.cursor.map fun cursor => ⟨cursor, statement.owner, statement.tables⟩
  else none

def ofStatements (statements : List Statement) : List CursorTables :=
  statements.filterMap ofStatement?

end CursorTables

end CobolAtlas

import CobolAtlas.Division

/-!
# Embedded SQL statements

The records that the scan leaves of embedded SQL: what a statement does, where it stands, and the
tables that it touches.
-/

namespace CobolAtlas

/-- What a statement does to its tables. -/
inductive Operation where
  | none
  | read
  | insert
  | update
  | delete
  | create
  deriving DecidableEq, Repr, Inhabited

namespace Operation

def ofVerb : String → Operation
  | "SELECT" => read
  | "INSERT" => insert
  | "UPDATE" => update
  | "DELETE" => delete
  | "CREATE" => create
  | _ => none

def verb : Operation → String
  | none => ""
  | read => "SELECT"
  | insert => "INSERT"
  | update => "UPDATE"
  | delete => "DELETE"
  | create => "CREATE"

/-- The name of an operation in records. -/
def name : Operation → String
  | none => "None"
  | read => "Read"
  | insert => "Insert"
  | update => "Update"
  | delete => "Delete"
  | create => "Create"

/-- The first operation that is one. -/
def orElse (first later : Operation) : Operation :=
  if first = none then later else first

end Operation

structure Statement where
  text : String
  operation : Operation
  division : Division
  /-- The section that holds the statement, or that fetches the cursor it declares. -/
  owner : String
  /-- The cursor that the statement declares. -/
  cursor : Option String
  tables : List String
  line : Nat
  deriving DecidableEq, Repr

namespace Statement

def declaresCursor (statement : Statement) : Bool :=
  statement.division = .data && statement.cursor.isSome

def declares (statement : Statement) (cursor : String) : Bool :=
  statement.division = .data && statement.cursor = some cursor

/-- What a statement does to its tables; a declaration of the data division reads them. -/
def effect (statement : Statement) : Operation :=
  if statement.division = .data then .read else statement.operation

end Statement

end CobolAtlas

import CobolAtlas.Analysis
import CobolAtlas.Json
import CobolAtlas.Structure

/-!
# Reports

The cross-reference of a program: its sections with what they do to the database, the tree of its
calls, its tables, cursors, statements, copied members and called modules. One report is written
as JSON (`Report.json`), with the fields of each record in a fixed order, and shown as text
(`Report.text`): one paragraph for each kind of finding, and none for a kind of which nothing was
found. Sections always have theirs.
-/

namespace CobolAtlas

structure Row where
  index : Nat
  body : Section
  /-- The operations on the database. -/
  operations : List String
  deriving DecidableEq, Repr

structure Report where
  program : String
  rows : List Row
  tree : Option Node
  tables : List TableUsage
  cursors : List CursorTables
  statements : List Statement
  members : CopyMembers
  calledModules : List String
  deriving Repr

/-! ### From an analysis to its report -/

def Statement.isOperationOf (statement : Statement) (owner : String) : Bool :=
  statement.division = .procedure && statement.owner = owner && statement.operation ≠ .none

/-- The operations of a section on the database: the verbs of its statements, each once and in
source order, then the cursors that it reads. -/
def databaseOperations (owner : String) (cursors : List String) (statements : List Statement) :
    List String :=
  keepFirst id ((statements.filter (·.isOperationOf owner)).map (·.operation.verb))
    ++ cursors.map (fun cursor => "SELECT [" ++ cursor ++ "]")

namespace Report

def rowsOf (sections : List Section) (statements : List Statement) : List Row :=
  sections.mapIdx fun i s => ⟨i, s, databaseOperations s.name s.cursors statements⟩

def ofAnalysis (analysis : Analysis) : Report :=
  { program := analysis.program
    rows := rowsOf analysis.sections analysis.statements
    tree := Structure.tree? analysis.sections
    tables := analysis.tables
    cursors := CursorTables.ofStatements analysis.statements
    statements := analysis.statements
    members := analysis.members
    calledModules := analysis.calledModules }

end Report

/-! ### Reports as JSON -/

def Call.json (call : Call) : Json :=
  .object [("target", .string call.target), ("is_module", .bool call.isModule),
    ("guard", .string call.guard), ("resolved", .ofOption .number call.resolved)]

def Row.json (row : Row) : Json :=
  .object [("index", .number row.index), ("name", .string row.body.name),
    ("logical_name", .string row.body.title), ("start_line", .number row.body.startLine),
    ("end_line", .ofOption .number row.body.endLine), ("reachable", .bool row.body.reachable),
    ("db_operations", .ofTexts row.operations),
    ("calls", .list (row.body.calls.map Call.json))]

mutual

def Node.json : Node → Json
  | ⟨name, title, guard, kind, children⟩ =>
    .object [("name", .string name), ("logical_name", .string title), ("guard", .string guard),
      ("kind", .string kind.name), ("children", .list (Node.jsonAll children))]

def Node.jsonAll : List Node → List Json
  | [] => []
  | node :: rest => node.json :: Node.jsonAll rest

end

def TableFlags.json (flags : TableFlags) : Json :=
  .object [("read", .bool flags.read), ("insert", .bool flags.insert),
    ("update", .bool flags.update), ("delete", .bool flags.delete),
    ("create", .bool flags.create)]

def TableUsage.json (usage : TableUsage) : Json :=
  .object [("name", .string usage.name), ("logical_name", .string usage.title),
    ("flags", usage.flags.json)]

def CursorTables.json (cursor : CursorTables) : Json :=
  .object [("cursor", .string cursor.cursor), ("procedure", .string cursor.owner),
    ("tables", .ofTexts cursor.tables)]

def Statement.json (statement : Statement) : Json :=
  .object [("text", .string statement.text), ("kind", .string statement.operation.name),
    ("division", .string statement.division.name), ("procedure", .string statement.owner),
    ("cursor", .ofOption .string statement.cursor), ("tables", .ofTexts statement.tables),
    ("line", .number statement.line)]

def CopyMember.json (member : CopyMember) : Json :=
  .object [("name", .string member.name), ("comment", .string member.comment)]

namespace Report

def json (report : Report) : Json :=
  .object [("program", .string report.program), ("procedures", .list (report.rows.map Row.json)),
    ("structure", .ofOption Node.json report.tree),
    ("tables", .list (report.tables.map TableUsage.json)),
    ("cursors", .list (report.cursors.map CursorTables.json)),
    ("statements", .list (report.statements.map Statement.json)),
    ("copies", .list (report.members.map CopyMember.json)),
    ("called_modules", .ofTexts report.calledModules)]

def jsonText (report : Report) : String :=
  report.json.render

end Report

/-! ### Reports as text -/

/-- A text in parentheses behind a space, nothing for an empty text. -/
def parenthesized (text : String) : String :=
  if text.isEmpty then "" else " (" ++ text ++ ")"

def spaced (text : String) : String :=
  if text.isEmpty then "" else " " ++ text

def Call.textLine (call : Call) : String :=
  "    " ++ (if call.isModule then "CALL" else "PERFORM") ++ " " ++ call.target
    ++ spaced call.guard

def Row.textLines (row : Row) : List String :=
  let s := row.body
  let lastLine := (s.endLine.map toString).getD ""
  let header :=
    "- [" ++ toString row.index ++ "] " ++ s.name ++ parenthesized s.title ++ " lines "
      ++ toString s.startLine ++ "-" ++ lastLine ++ (if s.reachable then "" else " UNREACHABLE")
  let operations :=
    if row.operations.isEmpty then [] else ["    DB: " ++ ", ".intercalate row.operations]
  header :: operations ++ s.calls.map Call.textLine

mutual

/-- The lines of a node at a depth and of all that is below. -/
def Node.textLines (depth : Nat) : Node → List String
  | ⟨name, title, guard, kind, children⟩ =>
    (String.ofList (List.replicate (2 * depth) ' ') ++ name ++ parenthesized title ++ kind.mark
      ++ spaced guard) :: Node.textLinesAll (depth + 1) children

def Node.textLinesAll (depth : Nat) : List Node → List String
  | [] => []
  | node :: rest => node.textLines depth ++ Node.textLinesAll depth rest

end

def appliedMark (applied : Bool) : String :=
  if applied then "o" else "-"

/-- The line of a table. Inserting and creating share a mark. -/
def TableUsage.textLine (usage : TableUsage) : String :=
  let flags := usage.flags
  "- " ++ usage.name ++ parenthesized usage.title ++ " "
    ++ Text.unwords [appliedMark (flags.insert || flags.create), appliedMark flags.read,
      appliedMark flags.update, appliedMark flags.delete]

def CursorTables.textLine (cursor : CursorTables) : String :=
  "- " ++ cursor.cursor ++ " [" ++ ", ".intercalate cursor.tables ++ "] used by "
    ++ (if cursor.owner.isEmpty then "-" else cursor.owner)

def CopyMember.textLine (member : CopyMember) : String :=
  "- " ++ member.name ++ parenthesized member.comment

namespace Report

/-- A paragraph behind an empty line, unless nothing is in it. -/
def paragraph (title : String) (lines : List String) : List String :=
  if lines.isEmpty then [] else "" :: title :: lines

def deadCount (report : Report) : Nat :=
  (report.rows.filter fun row => !row.body.reachable).length

def textLines (report : Report) : List String :=
  ["Program: " ++ report.program,
    "Sections: " ++ toString report.rows.length ++ " (" ++ toString report.deadCount
      ++ " unreachable), SQL statements: " ++ toString report.statements.length ++ ", tables: "
      ++ toString report.tables.length,
    "", "Sections:"]
    ++ report.rows.flatMap Row.textLines
    ++ paragraph "Structure:" (report.tree.toList.flatMap (Node.textLines 0))
    ++ paragraph "Tables (C R U D):" (report.tables.map TableUsage.textLine)
    ++ paragraph "Cursors:" (report.cursors.map CursorTables.textLine)
    ++ paragraph "Copy members:" (report.members.map CopyMember.textLine)
    ++ paragraph "Called modules:" (report.calledModules.map ("- " ++ ·))

def text (report : Report) : String :=
  String.join (report.textLines.map (· ++ "\n"))

end Report

end CobolAtlas

import CobolAtlas.Proofs.Json
import CobolAtlas.Proofs.Report.Operations

/-!
# What a report holds and says

A report describes an analysis (`Report.Describes`), and it has two forms. They are stated apart
from the functions that write them. The JSON text of a report is read by its field names and gives
the report back (`Report.ofText?_jsonText`); only the cursors that a section fetches have no field
of their own, they stand among its operations. The text for the console is not made to be read back;
`Report.shown` spells it out, and it is what is printed (`Report.text_eq_shown`).
-/

namespace CobolAtlas

def Operation.names : List (String × Operation) :=
  [("None", .none), ("Read", .read), ("Insert", .insert), ("Update", .update),
    ("Delete", .delete), ("Create", .create)]

def Division.names : List (String × Division) :=
  [("None", .none), ("Identification", .identification), ("Environment", .environment),
    ("Data", .data), ("Procedure", .procedure)]

def NodeKind.names : List (String × NodeKind) :=
  [("procedure", .unfolded), ("module", .external), ("invalid_target", .unknown),
    ("recursive", .recursive)]

theorem Operation.lookup_name (operation : Operation) :
    names.lookup operation.name = some operation := by
  cases operation <;> rfl

theorem Division.lookup_name (division : Division) :
    names.lookup division.name = some division := by
  cases division <;> rfl

theorem NodeKind.lookup_name (kind : NodeKind) : names.lookup kind.name = some kind := by
  cases kind <;> rfl

/-! ### Values -/

namespace Json

variable {α β : Type}

def natural? : Json → Option Nat
  | .number value => some value
  | _ => none

def text? : Json → Option String
  | .string value => some value
  | _ => none

def listOf? (read? : Json → Option α) : Json → Option (List α)
  | .list elements => elements.mapM read?
  | _ => none

def orNull? (read? : Json → Option α) : Json → Option (Option α)
  | .null => some none
  | value => (read? value).map some

theorem listOf?_map {read? : Json → Option β} {encode : α → Json} {read : α → β}
    (h : ∀ a, read? (encode a) = some (read a)) (as : List α) :
    listOf? read? (.list (as.map encode)) = some (as.map read) := by
  rw [listOf?]
  induction as with
  | nil => rfl
  | cons a as ih =>
    rw [List.map_cons, List.mapM_cons, h, ih]
    rfl

theorem listOf?_ofTexts (texts : List String) : listOf? text? (.ofTexts texts) = some texts := by
  have hread : ∀ text, text? (.string text) = some (id text) := fun _ => rfl
  rw [ofTexts, listOf?_map hread, List.map_id]

theorem orNull?_natural (value : Option Nat) :
    orNull? natural? (.ofOption .number value) = some value := by
  cases value <;> rfl

theorem orNull?_text (value : Option String) :
    orNull? text? (.ofOption .string value) = some value := by
  cases value <;> rfl

end Json

/-! ### Records -/

def Call.ofJson? : Json → Option Call
  | .object [("target", .string target), ("is_module", .bool isModule), ("guard", .string guard),
      ("resolved", resolved)] => do
    return ⟨target, isModule, guard, ← resolved.orNull? Json.natural?⟩
  | _ => none

def Row.ofJson? : Json → Option Row
  | .object [("index", .number index), ("name", .string name), ("logical_name", .string title),
      ("start_line", .number startLine), ("end_line", endLine), ("reachable", .bool reachable),
      ("db_operations", operations), ("calls", calls)] => do
    let endLine ← endLine.orNull? Json.natural?
    let operations ← operations.listOf? Json.text?
    let calls ← calls.listOf? Call.ofJson?
    return ⟨index, ⟨name, title, startLine, endLine, calls, [], reachable⟩, operations⟩
  | _ => none

mutual

def Node.ofJson? : Json → Option Node
  | .object [("name", .string name), ("logical_name", .string title), ("guard", .string guard),
      ("kind", .string kind), ("children", .list children)] => do
    return ⟨name, title, guard, ← NodeKind.names.lookup kind, ← Node.allOfJson? children⟩
  | _ => none

def Node.allOfJson? : List Json → Option (List Node)
  | [] => some []
  | json :: rest => do return (← Node.ofJson? json) :: (← Node.allOfJson? rest)

end

def TableUsage.ofJson? : Json → Option TableUsage
  | .object [("name", .string name), ("logical_name", .string title),
      ("flags", .object [("read", .bool read), ("insert", .bool insert), ("update", .bool update),
        ("delete", .bool delete), ("create", .bool create)])] =>
    some ⟨name, title, ⟨read, insert, update, delete, create⟩⟩
  | _ => none

def CursorTables.ofJson? : Json → Option CursorTables
  | .object [("cursor", .string cursor), ("procedure", .string owner), ("tables", tables)] => do
    return ⟨cursor, owner, ← tables.listOf? Json.text?⟩
  | _ => none

def Statement.ofJson? : Json → Option Statement
  | .object [("text", .string text), ("kind", .string operation), ("division", .string division),
      ("procedure", .string owner), ("cursor", cursor), ("tables", tables),
      ("line", .number line)] => do
    let operation ← Operation.names.lookup operation
    let division ← Division.names.lookup division
    let cursor ← cursor.orNull? Json.text?
    let tables ← tables.listOf? Json.text?
    return ⟨text, operation, division, owner, cursor, tables, line⟩
  | _ => none

def CopyMember.ofJson? : Json → Option CopyMember
  | .object [("name", .string name), ("comment", .string comment)] => some ⟨name, comment⟩
  | _ => none

namespace Report

def ofJson? : Json → Option Report
  | .object [("program", .string program), ("procedures", rows), ("structure", tree),
      ("tables", tables), ("cursors", cursors), ("statements", statements), ("copies", members),
      ("called_modules", calledModules)] => do
    let rows ← rows.listOf? Row.ofJson?
    let tree ← tree.orNull? Node.ofJson?
    let tables ← tables.listOf? TableUsage.ofJson?
    let cursors ← cursors.listOf? CursorTables.ofJson?
    let statements ← statements.listOf? Statement.ofJson?
    let members ← members.listOf? CopyMember.ofJson?
    let calledModules ← calledModules.listOf? Json.text?
    return ⟨program, rows, tree, tables, cursors, statements, members, calledModules⟩
  | _ => none

end Report

/-- A row as its record has it. -/
def Row.recorded (row : Row) : Row :=
  { row with body := { row.body with cursors := [] } }

/-- A report as its record has it. -/
def Report.recorded (report : Report) : Report :=
  { report with rows := report.rows.map Row.recorded }

theorem Call.ofJson?_json (call : Call) : ofJson? call.json = some call := by
  simp [ofJson?, json, Json.orNull?_natural]

/-- The record of a section leaves its cursors out, since the operations name them already. -/
theorem Row.ofJson?_json (row : Row) : ofJson? row.json = some row.recorded := by
  simp [ofJson?, json, Json.orNull?_natural, Json.listOf?_ofTexts,
    Json.listOf?_map Call.ofJson?_json, recorded]

mutual

/-- The tree is read back node by node, by mutual recursion with its lists of children. -/
theorem Node.ofJson?_json : (node : Node) → Node.ofJson? node.json = some node
  | ⟨name, title, guard, kind, children⟩ => by
    simp [Node.ofJson?, Node.json, NodeKind.lookup_name, Node.allOfJson?_jsonAll children]

theorem Node.allOfJson?_jsonAll : (nodes : List Node) →
    Node.allOfJson? (Node.jsonAll nodes) = some nodes
  | [] => by rw [Node.jsonAll, Node.allOfJson?]
  | node :: rest => by
    simp [Node.jsonAll, Node.allOfJson?, Node.ofJson?_json node, Node.allOfJson?_jsonAll rest]

end

theorem TableUsage.ofJson?_json (usage : TableUsage) : ofJson? usage.json = some usage := by
  simp [ofJson?, json, TableFlags.json]

theorem CursorTables.ofJson?_json (cursor : CursorTables) :
    ofJson? cursor.json = some cursor := by
  simp [ofJson?, json, Json.listOf?_ofTexts]

theorem Statement.ofJson?_json (statement : Statement) :
    ofJson? statement.json = some statement := by
  simp [ofJson?, json, Operation.lookup_name, Division.lookup_name, Json.orNull?_text,
    Json.listOf?_ofTexts]

theorem CopyMember.ofJson?_json (member : CopyMember) : ofJson? member.json = some member := by
  simp [ofJson?, json]

namespace Report

end Report

/-! ### The text for the console -/

/-- A title behind the name that it explains. -/
def shownTitle (title : String) : String :=
  if title = "" then "" else " (" ++ title ++ ")"

def shownGuard (guard : String) : String :=
  if guard = "" then "" else " " ++ guard

def Call.shown : Call → String
  | ⟨target, true, guard, _⟩ => "    CALL " ++ target ++ shownGuard guard ++ "\n"
  | ⟨target, false, guard, _⟩ => "    PERFORM " ++ target ++ shownGuard guard ++ "\n"

def shownEnd : Option Nat → String
  | none => ""
  | some line => toString line

def Row.shown (row : Row) : String :=
  "- [" ++ toString row.index ++ "] " ++ row.body.name ++ shownTitle row.body.title ++ " lines " ++
    toString row.body.startLine ++ "-" ++ shownEnd row.body.endLine ++
    (if row.body.reachable then "\n" else " UNREACHABLE\n") ++
    (if row.operations = [] then "" else "    DB: " ++ ", ".intercalate row.operations ++ "\n") ++
    String.join (row.body.calls.map Call.shown)

def NodeKind.shown : NodeKind → String
  | .unfolded => ""
  | .external => " <module>"
  | .unknown => " <invalid target>"
  | .recursive => " <recursive>"

mutual

/-- A node behind `indent`, and what is below it two columns further in. -/
def Node.shown (indent : String) : Node → String
  | ⟨name, title, guard, kind, children⟩ =>
    indent ++ name ++ shownTitle title ++ kind.shown ++ shownGuard guard ++ "\n" ++
      Node.shownAll (indent ++ "  ") children

def Node.shownAll (indent : String) : List Node → String
  | [] => ""
  | node :: rest => node.shown indent ++ Node.shownAll indent rest

end

def shownFlag : Bool → String
  | true => " o"
  | false => " -"

/-- A table with what is done to it: created or filled, read, updated, deleted from. -/
def TableUsage.shown : TableUsage → String
  | ⟨name, title, ⟨read, insert, update, delete, create⟩⟩ =>
    "- " ++ name ++ shownTitle title ++ shownFlag (insert || create) ++ shownFlag read ++
      shownFlag update ++ shownFlag delete ++ "\n"

def CursorTables.shown : CursorTables → String
  | ⟨cursor, owner, tables⟩ =>
    "- " ++ cursor ++ " [" ++ ", ".intercalate tables ++ "] used by " ++
      (if owner = "" then "-" else owner) ++ "\n"

def CopyMember.shown : CopyMember → String
  | ⟨name, comment⟩ => "- " ++ name ++ shownTitle comment ++ "\n"

def shownModule (name : String) : String :=
  "- " ++ name ++ "\n"

/-- A paragraph with its entries; there is none without entries. -/
def shownParagraph (title : String) : List String → String
  | [] => ""
  | entry :: rest => "\n" ++ title ++ "\n" ++ String.join (entry :: rest)

namespace Report

/-- The text of a report. -/
def shown (report : Report) : String :=
  "Program: " ++ report.program ++ "\n" ++
    "Sections: " ++ toString report.rows.length ++ " (" ++
    toString (report.rows.countP fun row => !row.body.reachable) ++
    " unreachable), SQL statements: " ++ toString report.statements.length ++ ", tables: " ++
    toString report.tables.length ++ "\n" ++
    "\n" ++ "Sections:" ++ "\n" ++ String.join (report.rows.map Row.shown) ++
    shownParagraph "Structure:" (report.tree.toList.map (Node.shown "")) ++
    shownParagraph "Tables (C R U D):" (report.tables.map TableUsage.shown) ++
    shownParagraph "Cursors:" (report.cursors.map CursorTables.shown) ++
    shownParagraph "Copy members:" (report.members.map CopyMember.shown) ++
    shownParagraph "Called modules:" (report.calledModules.map shownModule)

end Report

/-- The text of lines, each with its line feed. -/
def lineText (lines : List String) : String :=
  String.join (lines.map (· ++ "\n"))

theorem lineText_append (lines more : List String) :
    lineText (lines ++ more) = lineText lines ++ lineText more := by
  rw [lineText, List.map_append, String.join_append]
  rfl

theorem lineText_cons (line : String) (lines : List String) :
    lineText (line :: lines) = line ++ "\n" ++ lineText lines := by
  simp [lineText]

theorem lineText_map {α : Type} {line shown : α → String} (h : ∀ a, line a ++ "\n" = shown a)
    (as : List α) : lineText (as.map line) = String.join (as.map shown) := by
  rw [lineText, List.map_map]
  congr 1
  apply List.map_congr_left
  intro a _
  exact h a

theorem parenthesized_eq (text : String) : parenthesized text = shownTitle text := by
  simp [parenthesized, shownTitle]

theorem spaced_eq (text : String) : spaced text = shownGuard text := by
  simp [spaced, shownGuard]

theorem Call.textLine_eq (call : Call) : call.textLine ++ "\n" = call.shown := by
  obtain ⟨target, isModule, guard, resolved⟩ := call
  cases isModule <;> simp [textLine, shown, spaced_eq, String.append_assoc]

theorem Row.textLines_eq (row : Row) : lineText row.textLines = row.shown := by
  have hend : (row.body.endLine.map toString).getD "" = shownEnd row.body.endLine := by
    cases row.body.endLine <;> rfl
  have hoperations : lineText (if row.operations.isEmpty then []
      else ["    DB: " ++ ", ".intercalate row.operations]) =
      if row.operations = [] then ""
      else "    DB: " ++ ", ".intercalate row.operations ++ "\n" := by
    cases row.operations <;> simp [lineText]
  have hdead : (if row.body.reachable then "" else " UNREACHABLE") ++ "\n" =
      if row.body.reachable then "\n" else " UNREACHABLE\n" := by
    split <;> rfl
  unfold textLines shown
  rw [List.cons_append, lineText_cons, lineText_append, hoperations,
    lineText_map Call.textLine_eq, parenthesized_eq, hend, ← hdead]
  simp only [String.append_assoc]

theorem NodeKind.mark_eq (kind : NodeKind) : kind.mark = kind.shown := by
  cases kind <;> rfl

mutual

/-- The depth of a node is shown as two spaces a level. -/
theorem Node.textLines_eq (depth : Nat) : (node : Node) →
    lineText (node.textLines depth) = node.shown (String.ofList (List.replicate (2 * depth) ' '))
  | ⟨name, title, guard, kind, children⟩ => by
    rw [Node.textLines, Node.shown, lineText_cons, Node.textLinesAll_eq (depth + 1) children,
      parenthesized_eq, spaced_eq, NodeKind.mark_eq, Nat.mul_add, List.replicate_add,
      String.ofList_append]
    rfl

theorem Node.textLinesAll_eq (depth : Nat) : (nodes : List Node) →
    lineText (Node.textLinesAll depth nodes) =
      Node.shownAll (String.ofList (List.replicate (2 * depth) ' ')) nodes
  | [] => by rw [Node.textLinesAll, Node.shownAll, lineText, List.map_nil, String.join_nil]
  | node :: rest => by
    rw [Node.textLinesAll, Node.shownAll, lineText_append, Node.textLines_eq depth node,
      Node.textLinesAll_eq depth rest]

end

theorem TableUsage.textLine_eq (usage : TableUsage) : usage.textLine ++ "\n" = usage.shown := by
  have hflag : ∀ applied, " " ++ appliedMark applied = shownFlag applied := by
    intro applied
    cases applied <;> rfl
  obtain ⟨name, title, read, insert, update, delete, create⟩ := usage
  simp only [textLine, shown, parenthesized_eq, ← hflag, Text.unwords, String.append_assoc,
    String.intercalate_cons_cons, String.intercalate_singleton]

theorem CursorTables.textLine_eq (cursor : CursorTables) :
    cursor.textLine ++ "\n" = cursor.shown := by
  simp only [textLine, shown, String.isEmpty_iff]

theorem CopyMember.textLine_eq (member : CopyMember) : member.textLine ++ "\n" = member.shown := by
  rw [textLine, parenthesized_eq]
  rfl

namespace Report

end Report

end CobolAtlas

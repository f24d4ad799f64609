import CobolAtlas.Conditions
import CobolAtlas.Source
import CobolAtlas.Section
import CobolAtlas.Sql.Block

/-!
# The scan of a program

One pass over the lines of a program finds its sections with their calls, the embedded SQL
statements and the copied members. The state after a line is a function of the state in front of
it and of the line (`Scan.readLine`), and the scan of a program is the fold of that function. The
state keeps the two lines above, because a comment there names what follows.
-/

namespace CobolAtlas

structure Findings where
  sections : List Section := []
  statements : List Statement := []
  members : CopyMembers := []
  /-- The targets of all calls of modules, in source order. -/
  calledModules : List String := []
  deriving DecidableEq, Repr

/-- What a scan needs besides the program. -/
structure ScanOptions where
  tokenizer : Sql.Tokenizer := Sql.tokenize
  /-- Behind the name of a section it makes the label that ends the section. -/
  exitSuffix : String := "-EXIT"

/-- The state of a scan between two lines. -/
structure Scan where
  /-- The number of lines read. -/
  line : Nat := 0
  /-- The line above the next one. -/
  above : String := ""
  /-- The line above that one. -/
  twoAbove : String := ""
  division : Division := .none
  /-- The open SQL block. -/
  block : Option Sql.Block := none
  conditions : Conditions := {}
  /-- The sections that have ended. -/
  ended : List Section := []
  /-- The open section. -/
  current : Option Section := none
  statements : List Statement := []
  members : CopyMembers := []
  calledModules : List String := []
  deriving DecidableEq, Repr

namespace Scan

def sections (scan : Scan) : List Section :=
  scan.ended ++ scan.current.toList

/-- The name of the open section, empty outside of sections. -/
def owner (scan : Scan) : String :=
  match scan.current with
  | some s => s.name
  | none => ""

/-- The words of a line; periods belong to words only inside an SQL block. -/
def wordsOf (scan : Scan) (raw : String) : List String :=
  if scan.block.isSome then Line.sqlWords raw else Line.codeWords raw

/-! ### Sections -/

def closeSection (scan : Scan) (line : Nat) : Logged Scan :=
  match scan.current with
  | none => pure scan
  | some s => do
    let s := s.close line
    Logged.log (.sectionClosed s.name line s.calls.length)
    return { scan with ended := scan.ended ++ [s], current := none }

/-- A section without an exit ends in front of the header at `line`. -/
def closeBefore (scan : Scan) (line : Nat) : Logged Scan :=
  match scan.current with
  | none => pure scan
  | some s => do
    Logged.log (.sectionWithoutExit s.name line)
    scan.closeSection (line - 1)

/-- A section starts at a line. Its title is the comment two lines above. -/
def openSection (scan : Scan) (name : String) (line : Nat) : Logged Scan := do
  let scan ← scan.closeBefore line
  let title := Line.comment scan.twoAbove
  Logged.log (.sectionOpened name title line)
  return { scan with current := some (.start name title line), conditions := {} }

def isHeader (words : List String) : Bool :=
  words.length > 1 && words.getLast? = some "SECTION"

def isExit (options : ScanOptions) (s : Section) (words : List String) : Bool :=
  match Text.head words with
  | "EXIT" => Text.second words ≠ "PERFORM"
  | "GOBACK" => true
  | first => first = s.name ++ options.exitSuffix

/-! ### Calls -/

/-- The call that a line makes under some conditions. `PERFORM` on its own or with `VARYING` is a
loop and no call. -/
def callOf? (conditions : Conditions) (words : List String) : Option Call :=
  let target := Text.unquoted (Text.second words)
  match Text.head words with
  | "PERFORM" =>
    if words.length > 1 && target ≠ "VARYING" then some (.perform target conditions.shown)
    else none
  | "CALL" => some (.toModule target conditions.shown)
  | _ => none

def addCall (scan : Scan) (s : Section) (call : Call) : Scan :=
  { scan with
    current := some (s.addCall call)
    calledModules :=
      if call.isModule then scan.calledModules ++ [call.target] else scan.calledModules }

/-! ### Embedded SQL -/

def openBlock (scan : Scan) (division : Division) : Scan :=
  { scan with block := some { division := division } }

/-- The declarations of a cursor belong to the section that fetches it. -/
def withOwner (statements : List Statement) (cursor owner : String) : List Statement :=
  statements.map fun statement =>
    if statement.declares cursor then { statement with owner := owner } else statement

def fetch (scan : Scan) (cursor : String) : Logged Scan :=
  match scan.current with
  | none => pure scan
  | some s =>
    if scan.statements.any (fun statement => statement.declares cursor) then
      pure { scan with
        statements := withOwner scan.statements cursor s.name
        current := some (s.addFetch cursor) }
    else do
      Logged.log (.unknownCursor cursor s.name)
      return scan

def readBlock (options : ScanOptions) (scan : Scan) (block : Sql.Block) (words : List String)
    (continued : Bool) (line : Nat) : Logged Scan := do
  match ← block.readLine options.tokenizer words continued scan.owner line with
  | .goesOn block => return { scan with block := some block }
  | .closed none => return { scan with block := none }
  | .closed (some statement) =>
    Logged.log (.statementFound statement.operation line statement.tables.length)
    return { scan with block := none, statements := scan.statements ++ [statement] }

/-! ### Lines -/

def readData (scan : Scan) (words : List String) (line : Nat) : Logged Scan :=
  match words with
  | "COPY" :: name :: _ =>
    if scan.members.has name then pure scan
    else do
      Logged.log (.memberCopied name line)
      return { scan with members := scan.members.add name (Line.comment scan.above) }
  | _ => pure (if Sql.opensBlock words then scan.openBlock .data else scan)

def readCondition (scan : Scan) (words : List String) : Scan :=
  let previous := Text.without '.' (Line.format .code scan.above)
  { scan with conditions := scan.conditions.read words (some previous) }

/-- A line of the open section that is no header. While a condition is being read, every line is
part of it. -/
def readBody (options : ScanOptions) (scan : Scan) (s : Section) (words : List String)
    (line : Nat) : Logged Scan :=
  if isExit options s words then scan.closeSection line
  else if scan.conditions.isReading then pure (scan.readCondition words)
  else
    match callOf? scan.conditions words with
    | some call => pure (scan.addCall s call)
    | none =>
      if Sql.opensBlock words then pure (scan.openBlock .procedure)
      else pure (scan.readCondition words)

def readProcedure (options : ScanOptions) (scan : Scan) (words : List String) (line : Nat) :
    Logged Scan :=
  if isHeader words then scan.openSection (Text.head words) line
  else
    match scan.current with
    | some s => scan.readBody options s words line
    | none => pure (if Sql.opensBlock words then scan.openBlock .procedure else scan)

/-- A line of the procedure division inside a block, which may fetch a cursor. -/
def readProcedureBlock (options : ScanOptions) (scan : Scan) (block : Sql.Block)
    (words : List String) (continued : Bool) (line : Nat) : Logged Scan := do
  let scan ←
    match Sql.fetchedCursor? words with
    | some cursor => scan.fetch cursor
    | none => pure scan
  scan.readBlock options block words continued line

/-- A line that is neither blank nor boilerplate, in the division of the state. -/
def readWords (options : ScanOptions) (scan : Scan) (words : List String) (continued : Bool)
    (line : Nat) : Logged Scan :=
  match scan.division, scan.block with
  | .data, some block => scan.readBlock options block words continued line
  | .data, none => scan.readData words line
  | .procedure, some block => scan.readProcedureBlock options block words continued line
  | .procedure, none => scan.readProcedure options words line
  | _, _ => pure scan

def readLine (options : ScanOptions) (scan : Scan) (raw : String) : Logged Scan := do
  let words := scan.wordsOf raw
  let moved := { scan with division := scan.division.advance words }
  let after ←
    if moved.division.isStructural words then
      moved.readWords options words (Line.isContinuation raw) (scan.line + 1)
    else pure moved
  return { after with line := scan.line + 1, above := raw, twoAbove := scan.above }

/-! ### Programs -/

def readLines (options : ScanOptions) : Scan → List String → Logged Scan
  | scan, [] => pure scan
  | scan, raw :: rest => do
    let scan ← scan.readLine options raw
    readLines options scan rest

/-- The end of the program closes the open section and drops the open block. -/
def finish (scan : Scan) : Logged Findings := do
  if scan.block.isSome then Logged.log .blockOpenAtEnd
  let scan ←
    match scan.current with
    | some s => do
      Logged.log (.sectionOpenAtEnd s.name scan.line)
      scan.closeSection scan.line
    | none => pure scan
  return ⟨scan.sections, scan.statements, scan.members, scan.calledModules⟩

end Scan

def Source.scan (source : Source) (options : ScanOptions) : Logged Findings := do
  let scan ← Scan.readLines options {} source.lines
  scan.finish

end CobolAtlas

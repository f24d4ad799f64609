import CobolAtlas.CallGraph
import CobolAtlas.Disk
import CobolAtlas.Scan
import CobolAtlas.TableUsage

/-!
# The analysis of a program

The scan of a program, the reachability of its sections and the use of its tables together; and the
dictionaries and programs on a disk that an analysis starts from.
-/

namespace CobolAtlas

structure Analysis where
  program : String
  sections : List Section := []
  statements : List Statement := []
  tables : List TableUsage := []
  members : CopyMembers := []
  calledModules : List String := []
  deriving DecidableEq, Repr

namespace Analysis

def unreachable (analysis : Analysis) : List Section :=
  analysis.sections.filter (fun s => !s.reachable)

def cursors (analysis : Analysis) : List Statement :=
  analysis.statements.filter Statement.declaresCursor

end Analysis

/-- Analyses a program; a program without sections has no analysis. -/
def Source.analyze? (source : Source) (options : ScanOptions) (dictionary : Dictionary) :
    Logged (Option Analysis) := do
  Logged.log (.analysisStarted source.path source.lines.length)
  let findings ← source.scan options
  if findings.sections.isEmpty then return none
  Logged.log (.programScanned findings.sections.length findings.statements.length
    findings.members.length)
  let (sections, reachability) ← CallGraph.analyze findings.sections
  if !reachability.cleared.isEmpty then
    Logged.log (.sectionsCleared reachability.cleared.length)
  let tables := TableUsage.ofStatements findings.statements dictionary
  Logged.log (.analysisDone source.program sections.length reachability.dead.length tables.length)
  return some
    { program := source.program
      sections := sections
      statements := findings.statements
      tables := tables
      members := findings.members
      calledModules := findings.calledModules }

/-! ### Files -/

variable {m : Type → Type} [Monad m]

/-- The dictionary of a file. A file that cannot be read or is not UTF-8 gives an empty one. -/
def Dictionary.load (disk : Disk m) (path : String) : m (Logged Dictionary) := do
  match ← disk.read path with
  | .error fault => return ⟨{}, [.dictionaryMissing path fault.message]⟩
  | .ok bytes =>
    match Charset.Decoded.text? (Charset.utf8Text bytes) with
    | none => return ⟨{}, [.dictionaryMissing path "stream did not contain valid UTF-8"]⟩
    | some text =>
      let dictionary := Dictionary.ofText text
      return ⟨dictionary, [.dictionaryLoaded dictionary.records dictionary.size path]⟩

def Source.ofBytes (path : String) (charset : Charset) (bytes : Charset.Bytes)
    (decoding : Charset.Decoding := Charset.decode) : Logged Source :=
  let decoded := decoding charset bytes
  let events :=
    if Charset.Decoded.isMalformed decoded then [Event.bytesMalformed path charset.name] else []
  ⟨.ofChars path (Charset.Decoded.chars decoded), events⟩

inductive AnalysisFault where
  | unreadable (path : String) (fault : DiskFault)
  | unknownCharset (label : String)
  | noSections (path : String)
  deriving DecidableEq, Repr

namespace AnalysisFault

/-- Whether something is wrong beyond the program itself. -/
def isFatal : AnalysisFault → Bool
  | noSections _ => false
  | _ => true

def message : AnalysisFault → String
  | unreadable path fault => "failed to read " ++ path ++ ": " ++ fault.message
  | unknownCharset label => "unknown source encoding `" ++ label ++ "`"
  | noSections path => "no procedures found in " ++ path

end AnalysisFault

def Source.analyze (source : Source) (options : ScanOptions) (dictionary : Dictionary) :
    Logged (Except AnalysisFault Analysis) := do
  match ← source.analyze? options dictionary with
  | some analysis => return .ok analysis
  | none => return .error (.noSections source.path)

def analyzeFile (disk : Disk m) (path : String) (charset : Charset) (options : ScanOptions)
    (dictionary : Dictionary) (decoding : Charset.Decoding := Charset.decode) :
    m (Logged (Except AnalysisFault Analysis)) := do
  match ← disk.read path with
  | .error fault => return ⟨.error (.unreadable path fault), []⟩
  | .ok bytes =>
    return do
      let source ← Source.ofBytes path charset bytes decoding
      source.analyze options dictionary

end CobolAtlas

import CobolAtlas.Sql.Token
import CobolAtlas.Statement

/-!
# Events

What happens during an analysis, in order: each event has a level and a message. A computation
that reports events is `Logged`.
-/

namespace CobolAtlas

inductive Level where
  | debug
  | info
  | warn
  deriving DecidableEq, Repr

namespace Level

def name : Level → String
  | debug => "debug"
  | info => "info"
  | warn => "warn"

end Level

inductive Event where
  | sectionOpened (name title : String) (line : Nat)
  | sectionClosed (name : String) (line calls : Nat)
  | sectionWithoutExit (name : String) (line : Nat)
  | sectionOpenAtEnd (name : String) (line : Nat)
  | blockOpenAtEnd
  | memberCopied (name : String) (line : Nat)
  | statementFound (operation : Operation) (line tables : Nat)
  | unknownCursor (cursor owner : String)
  | textRejected (owner : String) (line : Nat) (text : String) (rejection : Sql.Rejection)
  | analysisStarted (path : String) (lines : Nat)
  | programScanned (sections statements members : Nat)
  | sectionCleared (name : String)
  | sectionsCleared (count : Nat)
  | analysisDone (program : String) (sections dead tables : Nat)
  | dictionaryLoaded (records tables : Nat) (path : String)
  | dictionaryMissing (path reason : String)
  | bytesMalformed (path charset : String)
  | reportWritten (path : String)
  deriving DecidableEq, Repr

namespace Event

def level : Event → Level
  | sectionWithoutExit .. | sectionOpenAtEnd .. | blockOpenAtEnd | textRejected ..
  | dictionaryMissing .. | bytesMalformed .. => .warn
  | analysisStarted .. | analysisDone .. | reportWritten .. => .info
  | _ => .debug

def message : Event → String
  | sectionOpened name title line =>
    "section " ++ name ++ " (" ++ title ++ ") at line " ++ toString line
  | sectionClosed name line calls =>
    "section " ++ name ++ " closed at line " ++ toString line ++ " with " ++ toString calls
      ++ " calls"
  | sectionWithoutExit name line =>
    "section " ++ name ++ " has no exit before line " ++ toString line ++ ", closing it there"
  | sectionOpenAtEnd name line =>
    "section " ++ name ++ " still open at end of file, closing at line " ++ toString line
  | blockOpenAtEnd => "SQL block still open at end of file, discarded"
  | memberCopied name line => "copy member " ++ name ++ " at line " ++ toString line
  | statementFound operation line tables =>
    operation.verb ++ " statement at line " ++ toString line ++ " (" ++ toString tables
      ++ " tables)"
  | unknownCursor cursor owner => "fetch of undeclared cursor " ++ cursor ++ " in " ++ owner
  | textRejected owner line text rejection =>
    "section [" ++ owner ++ "] line " ++ toString line ++ ": " ++ rejection.message text
      ++ ", no tables extracted"
  | analysisStarted path lines => "Analyzing " ++ path ++ " (" ++ toString lines ++ " lines)"
  | programScanned sections statements members =>
    "scanned " ++ toString sections ++ " sections, " ++ toString statements
      ++ " SQL statements, " ++ toString members ++ " copy members"
  | sectionCleared name => "section " ++ name ++ " is only called from dead sections"
  | sectionsCleared count => toString count ++ " sections reachable only from dead sections"
  | analysisDone program sections dead tables =>
    program ++ ": " ++ toString sections ++ " sections (" ++ toString dead ++ " unreachable), "
      ++ toString tables ++ " tables"
  | dictionaryLoaded records tables path =>
    "loaded " ++ toString records ++ " dictionary records for " ++ toString tables
      ++ " tables from " ++ path
  | dictionaryMissing path reason => "table dictionary " ++ path ++ " not loaded: " ++ reason
  | bytesMalformed path charset => path ++ " contains bytes that are not valid " ++ charset
  | reportWritten path => "Report written to " ++ path

end Event

/-! ### Computations that report events -/

/-- A value with the events on the way to it. -/
structure Logged (α : Type) where
  value : α
  events : List Event

namespace Logged

def log (event : Event) : Logged Unit :=
  ⟨(), [event]⟩

def andThen {α β : Type} (x : Logged α) (f : α → Logged β) : Logged β :=
  let y := f x.value
  ⟨y.value, x.events ++ y.events⟩

instance : Monad Logged where
  pure a := ⟨a, []⟩
  bind := andThen

@[simp] theorem value_pure {α : Type} (a : α) : (pure a : Logged α).value = a := rfl

@[simp] theorem value_bind {α β : Type} (x : Logged α) (f : α → Logged β) :
    (x >>= f).value = (f x.value).value := rfl

@[simp] theorem events_pure {α : Type} (a : α) : (pure a : Logged α).events = [] := rfl

@[simp] theorem events_bind {α β : Type} (x : Logged α) (f : α → Logged β) :
    (x >>= f).events = x.events ++ (f x.value).events := rfl

end Logged

end CobolAtlas

import CobolAtlas.Text

/-!
# Sections and calls

A section of the procedure division with the calls that it makes. Calls of one section to one
target are one call, the first of them.
-/

namespace CobolAtlas

structure Call where
  target : String
  /-- Whether the target is another module. -/
  isModule : Bool
  /-- The conditions at the call, as they are shown. -/
  guard : String
  /-- The index of the section that is called. -/
  resolved : Option Nat
  deriving DecidableEq, Repr

namespace Call

def perform (target guard : String) : Call :=
  ⟨target, false, guard, none⟩

def toModule (target guard : String) : Call :=
  ⟨target, true, guard, none⟩

/-- Keeps the first call of each target. -/
def dedup (calls : List Call) : List Call :=
  keepFirst Call.target calls

end Call

structure Section where
  name : String
  /-- The comment above the header. -/
  title : String
  startLine : Nat
  /-- The last line, once it is known. -/
  endLine : Option Nat
  calls : List Call
  /-- The cursors that the section fetches, in the order of the first fetch. -/
  cursors : List String
  /-- Whether control can get here from the first section. -/
  reachable : Bool
  deriving DecidableEq, Repr

namespace Section

def start (name title : String) (line : Nat) : Section :=
  ⟨name, title, line, none, [], [], false⟩

def isClosed (s : Section) : Bool :=
  s.endLine.isSome

/-- The section ends at a line, but never in front of its header. -/
def close (s : Section) (line : Nat) : Section :=
  { s with endLine := some (max line s.startLine), calls := Call.dedup s.calls }

def addCall (s : Section) (call : Call) : Section :=
  { s with calls := s.calls ++ [call] }

def addFetch (s : Section) (cursor : String) : Section :=
  if cursor ∈ s.cursors then s else { s with cursors := s.cursors ++ [cursor] }

/-- The calls of sections. -/
def internalCalls (s : Section) : List Call :=
  s.calls.filter (fun call => !call.isModule)

end Section

end CobolAtlas

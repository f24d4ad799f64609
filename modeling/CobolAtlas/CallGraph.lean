import CobolAtlas.Event
import CobolAtlas.Section

/-!
# The call graph

Sections call each other by name. The first section is where control enters the program, and a
section is live if a chain of calls leads to it from there. Names may occur more than once: a call
then leads to every section of that name, except that no section calls itself.

* `calls sections i j` is the edge from section `i` to section `j`.
* `live` is the least set that holds the first section and is closed under calls.
* `markCalled` marks every section that is called at all and resolves the calls; `clearDead` takes
  the mark from those that only dead sections call.
-/

namespace CobolAtlas.CallGraph

/-! ### Edges -/

def calls (sections : List Section) (i j : Nat) : Bool :=
  i ≠ j &&
    match sections[i]?, sections[j]? with
    | some caller, some callee =>
      caller.internalCalls.any (fun call => call.target = callee.name)
    | _, _ => false

def isCalled (sections : List Section) (j : Nat) : Bool :=
  (List.range sections.length).any (fun i => calls sections i j)

/-- The first section with a name, other than the caller. -/
def resolve? (sections : List Section) (caller : Nat) (name : String) : Option Nat :=
  (List.range sections.length).find? fun i =>
    i ≠ caller && (sections[i]?.map Section.name) = some name

/-- A call of a section of the program knows which one it leads to. -/
def resolveCall (sections : List Section) (caller : Nat) (call : Call) : Call :=
  if !call.isModule && sections.any (fun s => s.name = call.target) then
    { call with resolved := resolve? sections caller call.target }
  else call

/-! ### Live sections -/

/-- A set of sections with all that they call, in ascending order. -/
def expand (sections : List Section) (found : List Nat) : List Nat :=
  (List.range sections.length).filter fun j =>
    found.contains j || found.any (fun i => calls sections i j)

theorem length_expand_le (sections : List Section) (found : List Nat) :
    (expand sections found).length ≤ sections.length :=
  Nat.le_trans (List.length_filter_le _ _) (by simp)

def closure (sections : List Section) (found : List Nat) : List Nat :=
  if found.length < (expand sections found).length then
    closure sections (expand sections found)
  else found
termination_by sections.length - found.length
decreasing_by
  have := length_expand_le sections found
  omega

/-- The sections that control can reach from the first one, in ascending order. -/
def live (sections : List Section) : List Nat :=
  closure sections [0]

/-! ### Marks -/

/-- Marks the first section and every section that another one calls, and resolves the calls. -/
def markCalled (sections : List Section) : List Section :=
  sections.mapIdx fun i s =>
    { s with
      calls := s.calls.map (resolveCall sections i)
      reachable := i = 0 || isCalled sections i }

def falselyMarked (sections : List Section) : List Nat :=
  let live := live sections
  (List.range sections.length).filter fun i =>
    ((sections[i]?.map Section.reachable).getD false) && !live.contains i

def clearMarks (sections : List Section) : List Section :=
  let live := live sections
  sections.mapIdx fun i s => { s with reachable := s.reachable && live.contains i }

def logCleared (sections : List Section) : List Nat → Logged Unit
  | [] => pure ()
  | i :: rest => do
    match sections[i]? with
    | some s => Logged.log (.sectionCleared s.name)
    | none => pure ()
    logCleared sections rest

/-- Takes the mark from every section that is not live and tells which ones lose it. -/
def clearDead (sections : List Section) : Logged (List Section × List Nat) := do
  let cleared := falselyMarked sections
  logCleared sections cleared
  return (clearMarks sections, cleared)

/-! ### Analysis -/

/-- What is not reachable, in ascending order. -/
structure Reachability where
  /-- The sections that control cannot reach. -/
  dead : List Nat := []
  /-- Those of them that some section calls. -/
  cleared : List Nat := []
  deriving DecidableEq, Repr

def unmarked (sections : List Section) : List Nat :=
  (List.range sections.length).filter fun i =>
    (sections[i]?.map Section.reachable) = some false

/-- Resolves the calls of closed sections and marks those that control can reach. -/
def analyze (sections : List Section) : Logged (List Section × Reachability) := do
  let (marked, cleared) ← clearDead (markCalled sections)
  return (marked, ⟨unmarked marked, cleared⟩)

end CobolAtlas.CallGraph

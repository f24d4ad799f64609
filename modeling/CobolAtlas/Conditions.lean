import CobolAtlas.Text

/-!
# Open conditions

The conditions that hold at a line of a section, read off the lines in front of it. A guard is one
condition under which control reaches a line: the condition of an `IF`, the arm of an `EVALUATE`,
or the opposite of one of them. Guards are shown, never evaluated.

Lines are taken one clause at a time: the condition of an `IF` runs until `THEN`, `ELSE` or
`CONTINUE`, a `WHEN` label fits on its line, and `END-IF` and `END-EVALUATE` close the innermost
scope.
-/

namespace CobolAtlas

/-! ### Guards -/

inductive Guard where
  /-- The condition of an `IF` holds. -/
  | condition (text : String)
  /-- The subject has the value of a label. -/
  | case (subject label : String)
  /-- The subject has the value of one of two labels that stand on consecutive lines. -/
  | eitherCase (subject earlier label : String)
  /-- A guard does not hold. -/
  | otherwise (guard : Guard)
  deriving DecidableEq, Repr

namespace Guard

def shown : Guard → String
  | condition text => text
  | case subject label => "[" ++ subject ++ "] = [" ++ label ++ "]"
  | eitherCase subject earlier label =>
    "[" ++ subject ++ "] = [" ++ earlier ++ "] または [" ++ label ++ "]"
  | otherwise guard => guard.shown ++ " 以外"

/-- The guards that hold together, outermost first, each in brackets. -/
def shownAll (guards : List Guard) : String :=
  " かつ ".intercalate (guards.map fun guard => "【" ++ guard.shown ++ "】")

end Guard

/-! ### Scopes -/

/-- An `EVALUATE` whose end has not been read. -/
structure Evaluation where
  subject : String
  /-- The labels of all arms so far, in source order. -/
  labels : List String := []
  /-- Whether the guard of an arm is among the guards. -/
  inArm : Bool := false
  deriving DecidableEq, Repr

structure Conditions where
  /-- The guards that hold, innermost first. -/
  guards : List Guard := []
  /-- The words of the `IF` condition that is being read. -/
  reading : Option (List String) := none
  /-- The open `EVALUATE` scopes, innermost first. -/
  evaluations : List Evaluation := []
  deriving DecidableEq, Repr

namespace Conditions

def isReading (conditions : Conditions) : Bool :=
  conditions.reading.isSome

def depth (conditions : Conditions) : Nat :=
  conditions.guards.length

def shown (conditions : Conditions) : String :=
  Guard.shownAll conditions.guards.reverse

def push (conditions : Conditions) (guard : Guard) : Conditions :=
  { conditions with guards := guard :: conditions.guards }

def pop (conditions : Conditions) : Conditions :=
  { conditions with guards := conditions.guards.tail }

/-- Control goes to the other branch of the innermost scope. -/
def negateInnermost (conditions : Conditions) : Conditions :=
  match conditions.guards with
  | [] => conditions
  | guard :: outer => { conditions with guards := .otherwise guard :: outer }

def conditionGuard (words : List String) : Guard :=
  .condition (Text.trim (Text.unwords words))

/-! ### `IF` -/

/-- An `IF` starts. A condition that still waits for its `THEN` ends here. -/
def openIf (conditions : Conditions) : Conditions :=
  match conditions.reading with
  | none => { conditions with reading := some [] }
  | some words => { conditions.push (conditionGuard words) with reading := some [] }

/-- The words that a line adds to the condition being read. `THEN` ends the condition and is no
part of it; a line with `ELSE` or `CONTINUE` and no `THEN` is past the condition. -/
def conditionWords (words body : List String) : List String :=
  if words.contains "THEN" then body.filter (· ≠ "THEN")
  else if words.contains "ELSE" || words.contains "CONTINUE" then []
  else body

def endsCondition (words : List String) : Bool :=
  words.contains "THEN" || words.contains "CONTINUE" || words.contains "ELSE"

/-- Whether a line that ends a condition starts in its else-branch. -/
def startsElse (words : List String) : Bool :=
  words.contains "ELSE" && !words.contains "THEN" && !words.contains "CONTINUE"

/-- A line while the condition made of `soFar` is being read. -/
def readCondition (conditions : Conditions) (soFar words body : List String) : Conditions :=
  let condition := soFar ++ conditionWords words body
  if endsCondition words then
    let guard := conditionGuard condition
    { conditions.push (if startsElse words then .otherwise guard else guard) with reading := none }
  else if words.contains "END-IF" then { conditions with reading := none }
  else { conditions with reading := some condition }

/-- Reads a line as part of an `IF`; nothing if it is none. -/
def readIf? (conditions : Conditions) (words : List String) : Option Conditions :=
  if Text.head words = "IF" then
    let opened := conditions.openIf
    some (opened.readCondition [] words words.tail)
  else
    match conditions.reading with
    | some soFar => some (conditions.readCondition soFar words words)
    | none =>
      if words.contains "ELSE" then some conditions.negateInnermost
      else if words.contains "END-IF" then some conditions.pop
      else none

/-! ### `EVALUATE` -/

def caseLabel (words : List String) : String :=
  Text.unwords (words.filter (· ≠ "WHEN"))

/-- The label of the line above, if that line is a `WHEN` line itself. -/
def labelAbove (previous : Option String) : Option String :=
  match previous with
  | none => none
  | some line =>
    let words := Text.words line
    if Text.head words = "WHEN" then some (caseLabel words) else none

/-- The guard of an arm. The arm `OTHER` is the opposite of all labels so far. -/
def armGuard (evaluation : Evaluation) (words : List String) (previous : Option String) : Guard :=
  if words.contains "OTHER" then
    .otherwise (.case evaluation.subject (", ".intercalate evaluation.labels))
  else
    match labelAbove previous with
    | some earlier => .eitherCase evaluation.subject earlier (caseLabel words)
    | none => .case evaluation.subject (caseLabel words)

def withLabel (evaluation : Evaluation) (words : List String) : Evaluation :=
  if words.contains "OTHER" || (caseLabel words).isEmpty then evaluation
  else { evaluation with labels := evaluation.labels ++ [caseLabel words] }

def readEvaluate? (conditions : Conditions) (words : List String) (previous : Option String) :
    Option Conditions :=
  if Text.head words = "EVALUATE" then
    let evaluation : Evaluation := { subject := Text.unwords words.tail }
    some { conditions with evaluations := evaluation :: conditions.evaluations }
  else if words.contains "WHEN" then
    match conditions.evaluations with
    | [] => none
    | evaluation :: outer =>
      let evaluation := withLabel evaluation words
      let before := if evaluation.inArm then conditions.pop else conditions
      some { before.push (armGuard evaluation words previous) with
        evaluations := { evaluation with inArm := true } :: outer }
  else if Text.contains (Text.head words) "END-EVALUATE" then
    match conditions.evaluations with
    | [] => some conditions
    | evaluation :: outer =>
      let before := if evaluation.inArm then conditions.pop else conditions
      some { before with evaluations := outer }
  else none

/-! ### Lines -/

/-- Reads a line of a section; nothing if the line is no part of a condition. The line above tells
whether two labels share an arm. -/
def read? (conditions : Conditions) (words : List String) (previous : Option String) :
    Option Conditions :=
  match conditions.readIf? words with
  | some after => some after
  | none => conditions.readEvaluate? words previous

def read (conditions : Conditions) (words : List String) (previous : Option String) : Conditions :=
  (conditions.read? words previous).getD conditions

end Conditions

end CobolAtlas

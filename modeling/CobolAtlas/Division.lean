import CobolAtlas.Text

/-!
# Divisions

The four divisions of a program come in a fixed order. The scan only moves forward through them,
and some lines of each division say nothing about the program and are passed over.
-/

namespace CobolAtlas

/-- Where a line stands: in no division yet, or in one of the four. -/
inductive Division where
  | none
  | identification
  | environment
  | data
  | procedure
  deriving DecidableEq, Repr, Inhabited

namespace Division

def rank : Division → Nat
  | none => 0
  | identification => 1
  | environment => 2
  | data => 3
  | procedure => 4

/-- The name of a division in records. -/
def name : Division → String
  | none => "None"
  | identification => "Identification"
  | environment => "Environment"
  | data => "Data"
  | procedure => "Procedure"

/-- The name of a division in plain text. -/
def plainName : Division → String
  | none => "none"
  | identification => "identification"
  | environment => "environment"
  | data => "data"
  | procedure => "procedure"

def all : List Division :=
  [none, identification, environment, data, procedure]

/-- The division that a line opens: its name, then the word `DIVISION`. -/
def ofHeader? (words : List String) : Option Division :=
  if Text.without '.' (Text.second words) = "DIVISION" then
    match Text.head words with
    | "IDENTIFICATION" => some identification
    | "ENVIRONMENT" => some environment
    | "DATA" => some data
    | "PROCEDURE" => some procedure
    | _ => Option.none
  else Option.none

/-- The division after a line. A header that comes too late is not a header any more. -/
def advance (current : Division) (words : List String) : Division :=
  match ofHeader? words with
  | some next => if current.rank < next.rank then next else current
  | Option.none => current

/-- First words of lines that say nothing about the program in their division. -/
def boilerplate : Division → List String
  | none => []
  | identification => ["IDENTIFICATION", "PROGRAM-ID", "AUTHOR", "DATE-WRITTEN", "DATE-COMPILED"]
  | environment =>
    ["ENVIRONMENT", "CONFIGURATION", "SOURCE-COMPUTER", "OBJECT-COMPUTER", "INPUT-OUTPUT",
      "FILE-CONTROL"]
  | data => ["DATA", "FILE", "WORKING-STORAGE", "REPORT", "SCREEN"]
  | procedure => ["DISPLAY"]

/-- Whether a line is read at all: it is neither blank, nor a comment, nor boilerplate. -/
def isStructural (division : Division) (words : List String) : Bool :=
  let first := Text.without '.' (Text.head words)
  !first.isEmpty && first.toList.head? != some '*' && !division.boilerplate.contains first

end Division

end CobolAtlas

import CobolAtlas.Text

/-!
# Source lines

A source line has fixed columns: a sequence number in columns 1 to 6, an indicator in column 7,
the program text up to column 72, and an identification that nobody reads after it. Reading a line
keeps the text of its area in a normal form: no blanks at the ends, one space for a run of blanks,
and figurative constants replaced by what they show.
-/

namespace CobolAtlas

/-- What a line is read as. The text of a comment starts after the indicator. -/
inductive Area where
  | code
  | comment
  deriving DecidableEq, Repr

namespace Area

def indent : Area → Nat
  | code => 6
  | comment => 7

end Area

namespace Line

def rightMargin : Nat := 72

def columns (area : Area) (raw : List Char) : List Char :=
  (raw.drop area.indent).take (rightMargin - area.indent)

/-- A comment ends in front of the first revision mark, which is an `A` or a `D` with a period. -/
def beforeRevision : List Char → List Char
  | [] => []
  | [c] => [c]
  | c :: d :: rest =>
    if (c = 'A' || c = 'D') && d = '.' then [] else c :: beforeRevision (d :: rest)

/-- The text of an area before its words are looked at. -/
def normalText (area : Area) (raw : List Char) : List Char :=
  let text := Chars.squeeze (Chars.trim (columns area raw))
  match area with
  | .code => text
  | .comment => Chars.trimEnd (beforeRevision text)

/-- Figurative constants and the connector of subjects are shown by what they stand for. -/
def shownWord (word : String) : String :=
  if word = "ZERO" then "0"
  else if word = "SPACE" then "''"
  else if word = "ALSO" then "と"
  else word

def areaWords (area : Area) (raw : String) : List String :=
  (Text.words (String.ofList (normalText area raw.toList))).map shownWord

/-- The text of an area in normal form. -/
def format (area : Area) (raw : String) : String :=
  Text.unwords (areaWords area raw)

/-- The indicator in column 7. -/
def indicator (raw : String) : Option Char :=
  raw.toList[6]?

/-- A hyphen as indicator continues the literal of the line above. -/
def isContinuation (raw : String) : Bool :=
  indicator raw == some '-'

/-- The text of a comment line, empty for any other line. -/
def comment (raw : String) : String :=
  if indicator raw == some '*' then format .comment raw else ""

def behindHyphen (text : String) : String :=
  match text.toList with
  | '-' :: rest => String.ofList (Chars.trimStart rest)
  | _ => text

/-- The program text of a line; the indicator of a continuation is not part of it. -/
def programText (raw : String) : String :=
  let text := format .code raw
  if isContinuation raw then behindHyphen text else text

/-- The words of a line inside an embedded SQL block, where a period belongs to a name. -/
def sqlWords (raw : String) : List String :=
  Text.words (programText raw)

/-- The words of any other line, where periods end sentences and are not part of a word. -/
def codeWords (raw : String) : List String :=
  Text.words (Text.without '.' (programText raw))

end Line

end CobolAtlas

import CobolAtlas.Text

/-!
# Lexemes of SQL

The lexemes of an SQL text, what each of them shows, and the faults that reject a text. A fault
carries the part of the text that was not read yet, which fixes the place that its message names.
Of the symbols that a text starts with the longest is taken.
-/

namespace CobolAtlas.Sql

/-- A lexeme. Blanks and comments are none. -/
inductive Lexeme where
  /-- A name or a keyword; a quoted word is never a keyword. -/
  | word (text : String) (quoted : Bool)
  /-- A period on its own. -/
  | period
  /-- A number as it is written. -/
  | number (digits : String)
  /-- A literal between its opening and its closing mark. -/
  | literal (opening content closing : String)
  /-- A parameter as it is written. -/
  | placeholder (name : String)
  /-- An operator, a bracket, or any other character. -/
  | symbol (text : String)
  deriving DecidableEq, Repr

namespace Lexeme

def shown : Lexeme → String
  | word text _ => text
  | period => "."
  | number digits => digits
  | literal opening content closing => opening ++ content ++ closing
  | placeholder name => name
  | symbol text => text

end Lexeme

/-! ### Faults -/

inductive LexCause where
  | openString
  | openEscapeString
  | openUnicodeString
  | endOfHexDigits
  | hexDigit (found : Char)
  | codePoint (value : Nat)
  | openQuotedWord (quote : Char)
  | openComment
  | openDollarString
  | openTaggedString
  deriving DecidableEq, Repr

namespace LexCause

def message : LexCause → String
  | openString => "Unterminated string literal"
  | openEscapeString => "Unterminated encoded string literal"
  | openUnicodeString => "Unterminated unicode encoded string literal"
  | endOfHexDigits => "Unexpected EOF while parsing hex digit in escaped unicode string."
  | hexDigit found =>
    "Invalid hex digit in escaped unicode string: " ++ String.singleton found
  | codePoint value => "Invalid unicode character: " ++ Chars.hexText value
  | openQuotedWord quote =>
    "Expected close delimiter '" ++ String.singleton quote ++ "' before EOF."
  | openComment => "Unexpected EOF while in a multi-line comment"
  | openDollarString => "Unterminated dollar-quoted string"
  | openTaggedString => "Unterminated dollar-quoted, expected $"

end LexCause

/-- A fault, located in front of `rest`. -/
structure LexFault where
  cause : LexCause
  rest : List Char
  deriving DecidableEq, Repr

/-- A place in a text. Lines and columns count from one. -/
structure Position where
  line : Nat := 1
  column : Nat := 1
  deriving DecidableEq, Repr

namespace Position

def next (position : Position) (c : Char) : Position :=
  if c = '\n' then { line := position.line + 1 }
  else { position with column := position.column + 1 }

def after (text : List Char) : Position :=
  text.foldl next {}

end Position

namespace LexFault

def position (fault : LexFault) (text : List Char) : Position :=
  Position.after (text.take (text.length - fault.rest.length))

def message (fault : LexFault) (text : List Char) : String :=
  let place := fault.position text
  fault.cause.message ++ " at Line: " ++ toString place.line ++ ", Column: "
    ++ toString place.column

end LexFault

/-- What one lexeme leaves of a text; blanks and comments leave a rest without a lexeme. -/
abbrev LexStep := Except LexFault (Option Lexeme × List Char)

end CobolAtlas.Sql

/-! ### Symbols -/

namespace CobolAtlas.Sql.Lexeme

/-- The symbols, longer ones first. -/
def symbols : List String :=
  ["!~~*",
    "->>", "||/", "!~*", "!~~", "<=>", "~~*", "#>>",
    "->", "//", "|/", "||", "=>", "==", "!=", "!!", "!~", "<=", "<>", "<<", "<@", ">=", ">>",
    "::", ":=", "&&", "^@", "~*", "~~", "#-", "#>", "@>", "@?",
    "(", ")", ",", "+", "*", ";", "\\", "[", "]", "\x7b", "\x7d", "-", "/", "%", "|", "=", "!",
    "<", ">", ":", "&", "^", "~"]

/-- Both signs for inequality are shown as one. -/
def shownSymbol (text : String) : String :=
  if text = "!=" then "<>" else text

/-- The longest symbol that a text starts with, from behind its first character. -/
def symbol? (c : Char) (cs : List Char) : Option (Lexeme × List Char) :=
  (symbols.find? fun text => text.toList.isPrefixOf (c :: cs)).map fun text =>
    (.symbol (shownSymbol text), cs.drop (text.length - 1))

theorem symbol?_length {c : Char} {cs : List Char} {found : Lexeme × List Char}
    (h : symbol? c cs = some found) : found.2.length ≤ cs.length := by
  obtain ⟨text, _, rfl⟩ := Option.map_eq_some_iff.1 h
  simp

end CobolAtlas.Sql.Lexeme

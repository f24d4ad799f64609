import CobolAtlas.Charset.Decoder
import CobolAtlas.Chars.Hidden
import CobolAtlas.Double

/-!
# Faults in JSON texts

Why a JSON text cannot be read, and where. A JSON text is read byte by byte; each byte is held as
the character of the same number, so that the marks of JSON can be written as they are. A fault
carries the part of the text that was not read, which fixes its place.
-/

namespace CobolAtlas.JsonText

/-- What stands in a text where another type was expected. -/
inductive Found where
  | null
  | bool (value : Bool)
  | integer (digits : String)
  | fraction (isNegative : Bool) (value : Double)
  | text (value : String)
  | list
  | object
  deriving DecidableEq, Repr

namespace Found

/-- A decimal in positional notation. There is a digit on each side of the point. -/
def positional (number : Decimal) : String :=
  let digits := toString number.digits
  let zeros (n : Int) := String.ofList (List.replicate n.toNat '0')
  if 0 ≤ number.exponent then digits ++ zeros number.exponent ++ ".0"
  else
    let padded := (zeros (1 - number.exponent - digits.length) ++ digits).toList
    let whole := padded.length - (-number.exponent).toNat
    String.ofList (padded.take whole) ++ "." ++ String.ofList (padded.drop whole)

/-- A decimal with one digit in front of the point and the power of ten `power`. -/
def scientific (number : Decimal) (power : Int) : String :=
  let sign := if power < 0 then "e-" else "e+"
  match (toString number.digits).toList with
  | [] => ""
  | [digit] => String.ofList [digit] ++ sign ++ toString power.natAbs
  | digit :: rest => String.ofList (digit :: '.' :: rest) ++ sign ++ toString power.natAbs

/-- A double with the fewest digits, in positional notation where its first digit stands from the
fifth place behind the point to the sixteenth in front of it. -/
def shownDouble (value : Double) : String :=
  let number := value.shortestDecimal
  let power := number.exponent + (toString number.digits).length - 1
  if -5 ≤ power && power ≤ 15 then positional number else scientific number power

def shownChar (c : Char) : List Char :=
  if c = '"' then ['\\', '"']
  else if c = '\\' then ['\\', '\\']
  else if c = '\x00' then ['\\', '0']
  else if c = '\t' then ['\\', 't']
  else if c = '\n' then ['\\', 'n']
  else if c = '\r' then ['\\', 'r']
  else if Chars.isHidden c then
    ['\\', 'u', '\x7b'] ++ Nat.toDigits 16 c.toNat ++ ['\x7d']
  else [c]

def shown : Found → String
  | null => "null"
  | bool true => "boolean `true`"
  | bool false => "boolean `false`"
  | integer digits => "integer `" ++ digits ++ "`"
  | fraction isNegative value =>
    "floating point `" ++ (if isNegative then "-" else "") ++ shownDouble value ++ "`"
  | text value => "string \"" ++ String.ofList (value.toList.flatMap shownChar) ++ "\""
  | list => "sequence"
  | object => "map"

end Found

inductive Cause where
  | endOfList
  | endOfObject
  | endOfString
  | endOfValue
  | colonExpected
  | listEndExpected
  | objectEndExpected
  | identExpected
  | valueExpected
  | keyExpected
  | invalidEscape
  | invalidNumber
  | numberRange
  | invalidUtf8
  | controlCharacter
  | loneSurrogate
  | openSurrogate
  | trailingComma
  | trailingText
  | wrongType (found : Found) (expected : String)
  | repeatedField (name : String)
  deriving DecidableEq, Repr

inductive Category where
  /-- The text ends too early. -/
  | incomplete
  /-- The text is no JSON. -/
  | malformed
  /-- The text is JSON so far, but not what was asked for. -/
  | unsuitable
  deriving DecidableEq, Repr

namespace Cause

def category : Cause → Category
  | endOfList | endOfObject | endOfString | endOfValue => .incomplete
  | wrongType .. | repeatedField .. => .unsuitable
  | _ => .malformed

def message : Cause → String
  | endOfList => "EOF while parsing a list"
  | endOfObject => "EOF while parsing an object"
  | endOfString => "EOF while parsing a string"
  | endOfValue => "EOF while parsing a value"
  | colonExpected => "expected `:`"
  | listEndExpected => "expected `,` or `]`"
  | objectEndExpected => "expected `,` or `\x7d`"
  | identExpected => "expected ident"
  | valueExpected => "expected value"
  | keyExpected => "key must be a string"
  | invalidEscape => "invalid escape"
  | invalidNumber => "invalid number"
  | numberRange => "number out of range"
  | invalidUtf8 => "invalid unicode code point"
  | controlCharacter => "control character (\\u0000-\\u001F) found while parsing a string"
  | loneSurrogate => "lone leading surrogate in hex escape"
  | openSurrogate => "unexpected end of hex escape"
  | trailingComma => "trailing comma"
  | trailingText => "trailing characters"
  | wrongType found expected => "invalid type: " ++ found.shown ++ ", expected " ++ expected
  | repeatedField name => "duplicate field `" ++ name ++ "`"

end Cause

/-- A fault behind the read part of a text. -/
structure Fault where
  cause : Cause
  rest : List Char
  deriving DecidableEq, Repr

namespace Fault

/-- A fault that counts the next byte as read. -/
def atNext (cause : Cause) (rest : List Char) : Fault :=
  ⟨cause, rest.drop 1⟩

/-- The message of a fault in a text. Lines count from one, and columns count the bytes that are
read of the line. -/
def message (fault : Fault) (text : List Char) : String :=
  let read := text.take (text.length - fault.rest.length)
  let line := 1 + read.count '\n'
  let column := (read.reverse.takeWhile (· ≠ '\n')).length
  fault.cause.message ++ " at line " ++ toString line ++ " column " ++ toString column

end Fault

/-- Bytes, each as the character of the same number. -/
def ofBytes (bytes : Charset.Bytes) : List Char :=
  bytes.map fun b => Char.ofNat b.toNat

def toBytes (cs : List Char) : Charset.Bytes :=
  cs.map fun c => UInt8.ofNat c.toNat

end CobolAtlas.JsonText

import CobolAtlas.Text

/-!
# JSON values and their layout

The values that reports are made of, and the one layout in which they are written: two spaces per
level, one element or field per line, empty lists and objects on one line, and no escape that is
not needed.
-/

namespace CobolAtlas

/-- A JSON value. Reports hold no negative and no fractional numbers. -/
inductive Json where
  | null
  | bool (value : Bool)
  | number (value : Nat)
  | string (value : String)
  | list (elements : List Json)
  | object (fields : List (String × Json))

namespace Json

def ofOption {α : Type} (encode : α → Json) : Option α → Json
  | some value => encode value
  | none => null

def ofTexts (texts : List String) : Json :=
  list (texts.map string)

/-! ### Texts -/

/-- A character of a text. Only the quote, the backslash and the control characters below the
space are escaped. -/
def escaped (c : Char) : List Char :=
  if c = '"' then ['\\', '"']
  else if c = '\\' then ['\\', '\\']
  else if c = '\x08' then ['\\', 'b']
  else if c = '\t' then ['\\', 't']
  else if c = '\n' then ['\\', 'n']
  else if c = '\x0c' then ['\\', 'f']
  else if c = '\r' then ['\\', 'r']
  else if c.toNat < 0x20 then
    ['\\', 'u', '0', '0', Nat.digitChar (c.toNat / 16), Nat.digitChar (c.toNat % 16)]
  else [c]

def quoted (text : String) : String :=
  "\"" ++ String.ofList (text.toList.flatMap escaped) ++ "\""

/-! ### Layout -/

def newline (level : Nat) : String :=
  "\n" ++ String.ofList (List.replicate (2 * level) ' ')

/-- Items between two brackets, each on a line of its own. -/
def bracketed (opening closing : String) (level : Nat) (items : List String) : String :=
  if items.isEmpty then opening ++ closing
  else
    opening ++ newline (level + 1) ++ ("," ++ newline (level + 1)).intercalate items
      ++ newline level ++ closing

mutual

/-- A value whose first line stands at a level. -/
def layout (level : Nat) : Json → String
  | null => "null"
  | bool true => "true"
  | bool false => "false"
  | number value => toString value
  | string value => quoted value
  | list elements => bracketed "[" "]" level (layoutElements (level + 1) elements)
  | object fields => bracketed "\x7b" "\x7d" level (layoutFields (level + 1) fields)

def layoutElements (level : Nat) : List Json → List String
  | [] => []
  | element :: rest => layout level element :: layoutElements level rest

def layoutFields (level : Nat) : List (String × Json) → List String
  | [] => []
  | (name, value) :: rest =>
    (quoted name ++ ": " ++ layout level value) :: layoutFields level rest

end

def render (value : Json) : String :=
  layout 0 value

end Json

end CobolAtlas

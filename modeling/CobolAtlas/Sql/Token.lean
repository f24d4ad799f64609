import CobolAtlas.Sql.Lexer

/-!
# Tokens of SQL

A token is a lexeme as the search for tables sees it: one of the words that name tables, an
identifier, or anything else. Identifiers joined by periods are one token.

A word is a keyword in any case. Keywords are ASCII, so of the upper case of a character only the
letters that are ASCII matter: besides the small letters these are the upper case of ten
ligatures and letters.

Every identifier behind `FROM` or `JOIN` is a table until another token comes, and that token is
spent on ending the list. Behind `INSERT`, `UPDATE` and `CREATE` the first identifier is a table.
-/

namespace CobolAtlas.Sql

/-! ### Keywords -/

/-- The upper case of a character as far as it is ASCII; any other character stays. -/
def upperCase (c : Char) : List Char :=
  if c = 'ı' then ['I']
  else if c = 'ſ' then ['S']
  else if c = 'ß' then ['S', 'S']
  else if c = 'ﬀ' then ['F', 'F']
  else if c = 'ﬁ' then ['F', 'I']
  else if c = 'ﬂ' then ['F', 'L']
  else if c = 'ﬃ' then ['F', 'F', 'I']
  else if c = 'ﬄ' then ['F', 'F', 'L']
  else if c = 'ﬅ' || c = 'ﬆ' then ['S', 'T']
  else [c.toUpper]

def upperWord (word : String) : String :=
  String.ofList (word.toList.flatMap upperCase)

/-- Keywords that end a list of tables or stand between a verb and its table. -/
def structuralKeywords : List String :=
  ["SELECT", "DELETE", "INTO", "TABLE", "VALUES", "SET", "WHERE", "ON", "AS", "INNER", "LEFT",
    "RIGHT", "OUTER", "FULL", "CROSS", "ORDER", "GROUP", "HAVING", "UNION", "BY", "FOR", "WITH",
    "FETCH", "DECLARE", "CURSOR", "OPEN", "CLOSE", "UNIQUE", "INDEX", "VIEW", "AND", "OR", "NOT",
    "DISTINCT", "ALL"]

/-! ### Tokens -/

inductive TokenClass where
  | fromWord
  | joinWord
  | insertWord
  | updateWord
  | createWord
  | identifier
  | other
  deriving DecidableEq, Repr

namespace TokenClass

def name : TokenClass → String
  | fromWord => "From"
  | joinWord => "Join"
  | insertWord => "Insert"
  | updateWord => "Update"
  | createWord => "Create"
  | identifier => "Identifier"
  | other => "Other"

/-- The class of a name; an unknown name is any other token. -/
def ofName : String → TokenClass
  | "From" => fromWord
  | "Join" => joinWord
  | "Insert" => insertWord
  | "Update" => updateWord
  | "Create" => createWord
  | "Identifier" => identifier
  | _ => other

def ofWord (word : String) : TokenClass :=
  let keyword := upperWord word
  if keyword = "FROM" then fromWord
  else if keyword = "JOIN" then joinWord
  else if keyword = "INSERT" then insertWord
  else if keyword = "UPDATE" then updateWord
  else if keyword = "CREATE" then createWord
  else if structuralKeywords.contains keyword then other
  else identifier

end TokenClass

structure Token where
  kind : TokenClass
  text : String
  deriving DecidableEq, Repr

namespace Token

/-! ### Joining qualified names -/

/-- The class of a lexeme; only words have a class of their own. -/
def classOf : Lexeme → TokenClass
  | .word text quoted => if quoted then .identifier else .ofWord text
  | _ => .other

def ofLexeme (lexeme : Lexeme) : Token :=
  ⟨classOf lexeme, lexeme.shown⟩

/-- The token of a period that joins nothing. -/
def period : Token :=
  ⟨.other, "."⟩

/-- The tokens of lexemes behind an identifier. A period behind an identifier is held back:
`dotted` tells that one is. An identifier then joins the one in front of it, a keyword drops the
period, and anything else shows it first. -/
def joinBehind (name : String) (dotted : Bool) : List Lexeme → List Token
  | [] => [⟨.identifier, name⟩]
  | .period :: rest => joinBehind name true rest
  | .word text quoted :: rest =>
    match classOf (.word text quoted), dotted with
    | .identifier, true => joinBehind (name ++ "." ++ text) false rest
    | .identifier, false => ⟨.identifier, name⟩ :: joinBehind text false rest
    | kind, _ => ⟨.identifier, name⟩ :: ⟨kind, text⟩ :: joinFree rest
  | lexeme :: rest =>
    let token := ofLexeme lexeme
    if dotted then ⟨.identifier, name⟩ :: period :: token :: joinFree rest
    else ⟨.identifier, name⟩ :: token :: joinFree rest
where
  /-- The tokens of lexemes that follow no identifier, where a period joins nothing. -/
  joinFree : List Lexeme → List Token
    | [] => []
    | .period :: rest => period :: joinFree rest
    | .word text quoted :: rest =>
      match classOf (.word text quoted) with
      | .identifier => joinBehind text false rest
      | kind => ⟨kind, text⟩ :: joinFree rest
    | lexeme :: rest => ofLexeme lexeme :: joinFree rest

def ofLexemes (lexemes : List Lexeme) : List Token :=
  joinBehind.joinFree lexemes

end Token

/-! ### Tokenizers -/

structure Rejection where
  reason : String
  deriving DecidableEq, Repr

namespace Rejection

def message (rejection : Rejection) (text : String) : String :=
  "SQL tokenizer failed on `" ++ text ++ "`: " ++ rejection.reason

end Rejection

/-- A tokenizer turns an SQL text into tokens or rejects it. -/
abbrev Tokenizer := String → Except Rejection (List Token)

/-- The tokenizer of the generic SQL dialect. -/
def tokenize : Tokenizer := fun text =>
  match Lexeme.scan text.toList with
  | .ok lexemes => .ok (Token.ofLexemes lexemes)
  | .error fault => .error ⟨fault.message text.toList⟩

/-! ### Tables -/

structure TableSearch where
  /-- The tokens are in the list behind `FROM` or `JOIN`. -/
  inList : Bool := false
  /-- A verb waits for its table. -/
  awaitsTarget : Bool := false
  deriving DecidableEq, Repr

/-- The texts of the tokens that name tables, in the order of the tokens. -/
def namedTables (search : TableSearch) : List Token → List String
  | [] => []
  | token :: rest =>
    match token.kind with
    | .fromWord | .joinWord => namedTables { search with inList := true } rest
    | .identifier =>
      if search.inList then token.text :: namedTables search rest
      else if search.awaitsTarget then
        token.text :: namedTables { search with awaitsTarget := false } rest
      else namedTables search rest
    | .insertWord | .updateWord | .createWord =>
      if search.inList then namedTables { search with inList := false } rest
      else namedTables { search with awaitsTarget := true } rest
    | .other => namedTables { search with inList := false } rest

/-- The tables that tokens name, ascending and each once. -/
def referencedTables (tokens : List Token) : List String :=
  ascending (namedTables {} tokens)

end CobolAtlas.Sql

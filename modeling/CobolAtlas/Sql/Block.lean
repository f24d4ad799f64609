import CobolAtlas.Event
import CobolAtlas.Sql.Token

/-!
# Embedded SQL blocks

The lines between `EXEC SQL` and `END-EXEC` make one statement. A block collects their words, the
first verb at the start of a line, and in the data division the cursor that is declared; the line
with `END-EXEC` closes it. A continued line goes on with the literal of the line above: the quotes
that reopen the literal are dropped and no space comes between.
-/

namespace CobolAtlas.Sql

structure Block where
  /-- The words so far, each followed by a space. -/
  text : String := ""
  operation : Operation := .none
  cursor : Option String := none
  division : Division
  deriving DecidableEq, Repr

/-- A block after one of its lines. -/
inductive BlockLine where
  /-- The block goes on. -/
  | goesOn (block : Block)
  /-- The block is closed; a block without text makes no statement. -/
  | closed (statement : Option Statement)
  deriving DecidableEq, Repr

def opensBlock (words : List String) : Bool :=
  words == ["EXEC", "SQL"]

def closesBlock (word : String) : Bool :=
  Text.without '.' word = "END-EXEC"

def fetchedCursor? : List String → Option String
  | "FETCH" :: cursor :: _ => some (Text.dropEndWhile (· = '.') cursor)
  | _ => none

namespace Block

/-- The first words of a line may name the cursor and the operation of a block. -/
def readHead (block : Block) (words : List String) : Block :=
  let cursor :=
    match words with
    | "DECLARE" :: cursor :: _ => if block.division = .data then some cursor else block.cursor
    | _ => block.cursor
  { block with
    cursor := cursor
    operation := block.operation.orElse (.ofVerb (Text.head words)) }

def addWord (block : Block) (word : String) : Block :=
  if word.isEmpty then block else { block with text := block.text ++ word ++ " " }

/-- One more word that goes on with the text in front of it. -/
def addContinued (block : Block) (word : String) : Block :=
  if word.isEmpty then block
  else
    { block with
      text := Text.trimEnd block.text ++ Text.dropStartWhile Text.isQuote word ++ " " }

def addLine (block : Block) (continued : Bool) (words : List String) : Block :=
  match continued, words with
  | true, word :: rest => rest.foldl addWord (block.addContinued word)
  | _, _ => words.foldl addWord block

/-- The tables of a text; a text that the tokenizer rejects has none. -/
def tablesOf (tokenizer : Tokenizer) (owner : String) (line : Nat) (text : String) :
    Logged (List String) :=
  match tokenizer text with
  | .ok tokens => pure (referencedTables tokens)
  | .error rejection => do
    Logged.log (.textRejected owner line text rejection)
    return []

/-- The statement of a block that closes at a line of `owner`. -/
def close (tokenizer : Tokenizer) (block : Block) (owner : String) (line : Nat) :
    Logged (Option Statement) :=
  let text := Text.trimEnd block.text
  if text.isEmpty then pure none
  else do
    let tables ← tablesOf tokenizer owner line text
    return some ⟨text, block.operation, block.division, owner, block.cursor, tables, line⟩

def readLine (tokenizer : Tokenizer) (block : Block) (words : List String) (continued : Bool)
    (owner : String) (line : Nat) : Logged BlockLine :=
  let headed := if continued then block else block.readHead words
  let filled := headed.addLine continued (words.takeWhile (fun word => !closesBlock word))
  if words.any closesBlock then do
    return .closed (← filled.close tokenizer owner line)
  else pure (.goesOn filled)

end Block

end CobolAtlas.Sql

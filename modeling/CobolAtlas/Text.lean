import CobolAtlas.Chars

/-!
# Words of a text

The vocabulary in which the scan speaks of a line: its words, the text that words make, and the
removal of single characters. A word is what stands between two spaces, so an empty text has one
empty word, and two spaces in a row have an empty word between them.

There are two ways to drop repeated elements of a list: keep the first element of each key and the
order of the list (`keepFirst`), or order the elements and keep each once (`ascending`).
-/

namespace CobolAtlas.Text

def trimStart (s : String) : String :=
  String.ofList (Chars.trimStart s.toList)

def trimEnd (s : String) : String :=
  String.ofList (Chars.trimEnd s.toList)

def trim (s : String) : String :=
  String.ofList (Chars.trim s.toList)

def fields (sep : Char) (s : String) : List String :=
  (Chars.splitOn sep s.toList).map String.ofList

/-- The words of a text, cut at every single space. -/
def words (s : String) : List String :=
  fields ' ' s

/-- The text that words make, one space between two of them. -/
def unwords (ws : List String) : String :=
  " ".intercalate ws

def lines (s : String) : List String :=
  (Chars.lines s.toList).map String.ofList

/-- The text with every `c` taken out. -/
def without (c : Char) (s : String) : String :=
  String.ofList (s.toList.filter (· ≠ c))

def dropStartWhile (p : Char → Bool) (s : String) : String :=
  String.ofList (s.toList.dropWhile p)

def dropEndWhile (p : Char → Bool) (s : String) : String :=
  String.ofList (Chars.dropEndWhile p s.toList)

/-- The two quote characters of literals. -/
def isQuote (c : Char) : Bool :=
  c = '\'' || c = '"'

def unquoted (s : String) : String :=
  dropEndWhile isQuote (dropStartWhile isQuote s)

def occursIn (part : List Char) : List Char → Bool
  | [] => part.isEmpty
  | c :: cs => part.isPrefixOf (c :: cs) || occursIn part cs

def contains (s part : String) : Bool :=
  occursIn part.toList s.toList

/-- The first word, empty if there is none. -/
def head (ws : List String) : String :=
  ws.headD ""

def second (ws : List String) : String :=
  ws.getD 1 ""

end CobolAtlas.Text

/-! ### Lists without repetition -/

namespace CobolAtlas

/-- Keeps the first element of each key that is not in `seen`. -/
def keepFirstAfter {α β : Type} [DecidableEq β] (key : α → β) (seen : List β) : List α → List α
  | [] => []
  | a :: rest =>
    if key a ∈ seen then keepFirstAfter key seen rest
    else a :: keepFirstAfter key (key a :: seen) rest

/-- Keeps the first element of each key, in the order of the list. -/
def keepFirst {α β : Type} [DecidableEq β] (key : α → β) (as : List α) : List α :=
  keepFirstAfter key [] as

/-- Puts a text into an ascending list, unless it is there already. Texts are ordered by the code
points of their characters. -/
def insertAscending (s : String) : List String → List String
  | [] => [s]
  | t :: rest =>
    if s < t then s :: t :: rest
    else if s = t then t :: rest
    else t :: insertAscending s rest

def ascending (ss : List String) : List String :=
  ss.foldr insertAscending []

end CobolAtlas

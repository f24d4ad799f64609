/-!
# Characters of a line

Operations on a line or a text seen as its list of characters: blanks, trimming, the squeezing
of blank runs, cutting at a separator, and hexadecimal digits. Columns and widths count characters.

* `splitOn` cuts at every separator, so that the pieces joined by the separator give the text
  back (`splitOn_cons_sep`, `splitOn_cons_of_ne` are its two rules).
* `squeeze` turns each run of two or more blanks into one space and leaves a single blank alone.
* `lines` cuts a text into lines; a final line feed ends the last line and starts no other.
-/

namespace CobolAtlas.Chars

/-! ### Blanks -/

/-- The blank characters are those with the Unicode property `White_Space`. -/
def isBlank (c : Char) : Bool :=
  let n := c.toNat
  (9 ≤ n && n ≤ 13) || n == 0x20 || n == 0x85 || n == 0xA0 || n == 0x1680
    || (0x2000 ≤ n && n ≤ 0x200A) || n == 0x2028 || n == 0x2029 || n == 0x202F
    || n == 0x205F || n == 0x3000

def trimStart (cs : List Char) : List Char :=
  cs.dropWhile isBlank

/-- Drops the characters at the end for which `p` holds. -/
def dropEndWhile (p : Char → Bool) (cs : List Char) : List Char :=
  (cs.reverse.dropWhile p).reverse

def trimEnd (cs : List Char) : List Char :=
  dropEndWhile isBlank cs

def trim (cs : List Char) : List Char :=
  trimEnd (trimStart cs)

/-- Puts one character in front of a squeezed text: next to a blank it only widens the run. -/
def squeezeCons (c : Char) : List Char → List Char
  | [] => [c]
  | d :: ds => if isBlank c && isBlank d then ' ' :: ds else c :: d :: ds

/-- Every run of two or more blanks becomes one space; a blank on its own stays as it is. -/
def squeeze (cs : List Char) : List Char :=
  cs.foldr squeezeCons []

@[simp] theorem squeeze_nil : squeeze [] = [] := rfl

@[simp] theorem squeeze_cons (c : Char) (cs : List Char) :
    squeeze (c :: cs) = squeezeCons c (squeeze cs) := rfl

/-! ### Cutting at a separator -/

def splitCons (sep c : Char) (pieces : List (List Char)) : List (List Char) :=
  if c = sep then [] :: pieces
  else match pieces with
    | [] => [[c]]
    | piece :: rest => (c :: piece) :: rest

/-- Cuts at every `sep`. There is always at least one piece, and pieces may be empty. -/
def splitOn (sep : Char) (cs : List Char) : List (List Char) :=
  cs.foldr (splitCons sep) [[]]

@[simp] theorem splitOn_nil (sep : Char) : splitOn sep [] = [[]] := rfl

theorem splitOn_cons (sep c : Char) (cs : List Char) :
    splitOn sep (c :: cs) = splitCons sep c (splitOn sep cs) := rfl

@[simp] theorem splitOn_cons_sep (sep : Char) (cs : List Char) :
    splitOn sep (sep :: cs) = [] :: splitOn sep cs := by
  simp [splitOn_cons, splitCons]

theorem splitOn_ne_nil (sep : Char) (cs : List Char) : splitOn sep cs ≠ [] := by
  cases cs with
  | nil => simp
  | cons c cs =>
    rw [splitOn_cons]
    unfold splitCons
    split
    · simp
    · split <;> simp

/-- A character other than the separator joins the first piece. -/
theorem splitOn_cons_of_ne {sep c : Char} (h : c ≠ sep) {cs piece : List Char}
    {rest : List (List Char)} (hs : splitOn sep cs = piece :: rest) :
    splitOn sep (c :: cs) = (c :: piece) :: rest := by
  simp [splitOn_cons, splitCons, h, hs]

/-! ### Lines -/

/-- A line that a line feed ended loses the one carriage return in front of the line feed. -/
def endedLine (cs : List Char) : List Char :=
  if cs.getLast? = some '\r' then cs.dropLast else cs

/-- The lines of a text. What follows the last line feed is a line only if it is not empty, and
keeps its carriage returns. -/
def lines (cs : List Char) : List (List Char) :=
  let pieces := splitOn '\n' cs
  pieces.dropLast.map endedLine ++ pieces.getLast?.toList.filter (fun piece => !piece.isEmpty)

/-! ### Hexadecimal digits -/

def hexValue? (c : Char) : Option Nat :=
  if '0' ≤ c && c ≤ '9' then some (c.toNat - '0'.toNat)
  else if 'a' ≤ c && c ≤ 'f' then some (c.toNat - 'a'.toNat + 10)
  else if 'A' ≤ c && c ≤ 'F' then some (c.toNat - 'A'.toNat + 10)
  else none

def isHexDigit (c : Char) : Bool :=
  (hexValue? c).isSome

/-- The number that hexadecimal digits write, at least one of them. -/
def hexNumber? : List Char → Option Nat
  | [] => none
  | digits =>
    if digits.all isHexDigit then
      some (digits.foldl (fun n c => n * 16 + (hexValue? c).getD 0) 0)
    else none

/-- The hexadecimal digits of a number, in lower case. -/
def hexText (n : Nat) : String :=
  String.ofList (Nat.toDigits 16 n)

end CobolAtlas.Chars

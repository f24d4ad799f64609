import CobolAtlas.Sql.Lexeme

/-!
# Numbers of SQL

Digits with at most one point, an exponent only if it has a digit, and one `L` at the end. A zero
with an `x` starts the digits of a binary literal, and a point without digits is a period.
-/

namespace CobolAtlas.Sql.Lexeme

def sign : List Char → List Char × List Char
  | '+' :: rest => (['+'], rest)
  | '-' :: rest => (['-'], rest)
  | cs => ([], cs)

theorem sign_length (cs : List Char) : (sign cs).2.length ≤ cs.length := by
  unfold sign
  split <;> simp

/-- The exponent in front of a text; without a digit it is none. -/
def exponent : List Char → List Char × List Char
  | [] => ([], [])
  | e :: cs =>
    let behind := sign cs
    if (e = 'e' || e = 'E') && (behind.2.head?.map Char.isDigit).getD false then
      (e :: behind.1 ++ behind.2.takeWhile Char.isDigit, behind.2.dropWhile Char.isDigit)
    else ([], e :: cs)

theorem exponent_length (cs : List Char) : (exponent cs).2.length ≤ cs.length := by
  unfold exponent
  split
  · simp
  · rename_i e cs
    have hs := sign_length cs
    have hd := (List.dropWhile_suffix (l := (sign cs).2) Char.isDigit).length_le
    dsimp only
    split
    · simp only [List.length_cons]; omega
    · simp

/-- One `L` in front of a text. -/
def longMark : List Char → List Char × List Char
  | 'L' :: rest => (['L'], rest)
  | cs => ([], cs)

theorem longMark_length (cs : List Char) : (longMark cs).2.length ≤ cs.length := by
  unfold longMark
  split <;> simp

/-- A number whose digits and point are read. -/
def afterDigits (digits cs : List Char) : Lexeme × List Char :=
  let power := exponent cs
  let mark := longMark power.2
  (.number (String.ofList (digits ++ power.1 ++ mark.1)), mark.2)

theorem afterDigits_length (digits cs : List Char) :
    (afterDigits digits cs).2.length ≤ cs.length :=
  Nat.le_trans (longMark_length _) (exponent_length cs)

def afterPoint (whole cs : List Char) : Lexeme × List Char :=
  match whole, cs.takeWhile Char.isDigit with
  | [], [] => (.period, cs)
  | _, fraction => afterDigits (whole ++ '.' :: fraction) (cs.dropWhile Char.isDigit)

theorem afterPoint_length (whole cs : List Char) :
    (afterPoint whole cs).2.length ≤ cs.length := by
  have hd := (List.dropWhile_suffix (l := cs) Char.isDigit).length_le
  unfold afterPoint
  split
  · simp
  · exact Nat.le_trans (afterDigits_length _ _) hd

/-- A number from behind its first character, which is a digit or a point. -/
def numberFrom (c : Char) (cs : List Char) : Lexeme × List Char :=
  if c = '.' then afterPoint [] cs
  else
    let whole := c :: cs.takeWhile Char.isDigit
    match cs.dropWhile Char.isDigit with
    | '.' :: rest => afterPoint whole rest
    | 'x' :: rest =>
      if whole = ['0'] then
        (.literal "X'" (String.ofList (rest.takeWhile Chars.isHexDigit)) "'",
          rest.dropWhile Chars.isHexDigit)
      else afterDigits whole ('x' :: rest)
    | rest => afterDigits whole rest

theorem numberFrom_length (c : Char) (cs : List Char) :
    (numberFrom c cs).2.length ≤ cs.length := by
  have hd := (List.dropWhile_suffix (l := cs) Char.isDigit).length_le
  unfold numberFrom
  split
  · exact afterPoint_length _ _
  · dsimp only
    split
    · rename_i rest hr
      have := afterPoint_length (c :: cs.takeWhile Char.isDigit) rest
      rw [hr, List.length_cons] at hd
      omega
    · rename_i rest hr
      rw [hr] at hd
      split
      · have := (List.dropWhile_suffix (l := rest) Chars.isHexDigit).length_le
        simp only [List.length_cons] at hd
        dsimp only
        omega
      · exact Nat.le_trans (afterDigits_length _ _) hd
    · exact Nat.le_trans (afterDigits_length _ _) hd

end CobolAtlas.Sql.Lexeme

import CobolAtlas.JsonText.Reader

/-!
# Values in JSON texts

A number is read as a significand below 2^64 and a power of ten. Digits that do not fit into the
significand only raise the power if they are whole and are passed over if they are not. The double
is then reached from the significand by a multiplication or by divisions, each of which rounds, so
that it need not be the nearest one.

Where a text or an object is expected and another value stands, the value is read as far as a
message about it needs.
-/

namespace CobolAtlas.JsonText

/-! ### Digits -/

def digitOf (c : Char) : Nat :=
  c.toNat - '0'.toNat

def maxSignificand : Nat := Nat.pow 2 64 - 1

def maxExponent : Nat := Nat.pow 2 31 - 1

/-- Takes digits into a significand as long as it stays below its bound. -/
def takeDigits (significand : Nat) : List Char → Nat × List Char
  | [] => (significand, [])
  | c :: rest =>
    let next := significand * 10 + digitOf c
    if c.isDigit && next ≤ maxSignificand then takeDigits next rest else (significand, c :: rest)

/-- Takes digits into an exponent, with `none` for one above its bound. The digit that goes above
the bound is the last one taken. -/
def takeExponent (exponent : Nat) : List Char → Option Nat × List Char
  | [] => (some exponent, [])
  | c :: rest =>
    let next := exponent * 10 + digitOf c
    if !c.isDigit then (some exponent, c :: rest)
    else if next ≤ maxExponent then takeExponent next rest
    else (none, rest)

/-! ### Doubles -/

def maxPower : Nat := 308

def divideByPower? (value : Double) (power : Nat) : Option Double := do
  value.div? (← Double.ofNat? (Nat.pow 10 power))

/-- A double divided by the greatest power of ten again and again, until it is zero. -/
def divideByMaxPower? (value : Double) : Nat → Option Double
  | 0 => some value
  | times + 1 =>
    if value.significand = 0 then some value
    else do divideByMaxPower? (← divideByPower? value maxPower) times

/-- A double divided by a power of ten, by the greatest one as long as the power is above it. -/
def lowered? (value : Double) (power : Nat) : Option Double := do
  let times := (power - 1) / maxPower
  divideByPower? (← divideByMaxPower? value times) (power - times * maxPower)

def scaled? (significand : Nat) (power : Int) : Option Double := do
  let value ← Double.ofNat? significand
  if power < 0 then lowered? value (-power).toNat
  else if significand = 0 then some value
  else if power > maxPower then none
  else value.mul? (← Double.ofNat? (Nat.pow 10 power.toNat))

/-- A number with a fraction or an exponent, with `rest` behind it. -/
def fraction (isNegative : Bool) (significand : Nat) (power : Int) (rest : List Char) :
    Reading Found :=
  match scaled? significand power with
  | some value => .ok (.fraction isNegative value, rest)
  | none => .error ⟨.numberRange, rest⟩

/-! ### Numbers -/

/-- A number from behind the mark of its exponent. An exponent above its bound makes the number
zero, unless the number grows with it. -/
def afterMark (isNegative : Bool) (significand : Nat) (power : Int) (cs : List Char) :
    Reading Found :=
  let isShrinking := cs.head? = some '-'
  match skipSign cs with
  | [] => .error ⟨.endOfValue, []⟩
  | d :: digits =>
    if d.isDigit then
      match takeExponent (digitOf d) digits with
      | (some exponent, rest) =>
        fraction isNegative significand (if isShrinking then power - exponent else power + exponent)
          rest
      | (none, rest) =>
        if significand ≠ 0 && !isShrinking then .error ⟨.numberRange, rest⟩
        else .ok (.fraction isNegative .zero, skipDigits rest)
    else .error ⟨.invalidNumber, digits⟩

/-- A number behind its digits, with the power of ten so far. -/
def afterDigits (isNegative : Bool) (significand : Nat) (power : Int) (isWhole : Bool)
    (cs : List Char) : Reading Found :=
  match cs with
  | 'e' :: rest => afterMark isNegative significand power rest
  | 'E' :: rest => afterMark isNegative significand power rest
  | _ =>
    if !isWhole || (isNegative && (significand = 0 || significand > Nat.pow 2 63)) then
      fraction isNegative significand power cs
    else .ok (.integer ((if isNegative then "-" else "") ++ toString significand), cs)

def afterWhole (isNegative : Bool) (significand : Nat) (power : Int) (cs : List Char) :
    Reading Found :=
  match cs with
  | '.' :: rest =>
    if startsWithDigit rest then
      let taken := takeDigits significand rest
      let places : Int := rest.length - taken.2.length
      afterDigits isNegative taken.1 (power - places) false (skipDigits taken.2)
    else .error (.atNext (if rest.isEmpty then .endOfValue else .invalidNumber) rest)
  | _ => afterDigits isNegative significand power (power = 0) cs

/-- A number from behind its sign. -/
def number (isNegative : Bool) : List Char → Reading Found
  | [] => .error ⟨.endOfValue, []⟩
  | c :: rest =>
    if c = '0' then
      if startsWithDigit rest then .error (.atNext .invalidNumber rest)
      else afterWhole isNegative 0 0 rest
    else if c.isDigit then
      let taken := takeDigits (digitOf c) rest
      let behind := skipDigits taken.2
      afterWhole isNegative taken.1 (taken.2.length - behind.length) behind
    else .error ⟨.invalidNumber, rest⟩

/-! ### Values of the wrong type -/

/-- What stands at the start of a text, read as far as it has no parts. -/
def found : List Char → Reading Found
  | 'n' :: rest => (skipWord ['u', 'l', 'l'] rest).map (.null, ·)
  | 't' :: rest => (skipWord ['r', 'u', 'e'] rest).map (.bool true, ·)
  | 'f' :: rest => (skipWord ['a', 'l', 's', 'e'] rest).map (.bool false, ·)
  | '-' :: rest => number true rest
  | '"' :: rest => (text rest).map fun s => (.text s.1, s.2)
  | '[' :: rest => .ok (.list, '[' :: rest)
  | '\x7b' :: rest => .ok (.object, '\x7b' :: rest)
  | c :: rest =>
    if c.isDigit then number false (c :: rest)
    else .error (.atNext .valueExpected (c :: rest))
  | [] => .error (.atNext .valueExpected [])

/-- The fault of a value that is not what was expected. -/
def misfit (expected : String) (cs : List Char) : Fault :=
  match found cs with
  | .error fault => fault
  | .ok (value, rest) => ⟨.wrongType value expected, rest⟩

end CobolAtlas.JsonText

/-!
# Doubles

The finite doubles that are not negative, each as a whole multiple of a power of two, and their
arithmetic. Every operation is exact up to one rounding to the nearest double, in which a tie goes
to the even significand.

The decimal with the fewest digits that reads back as a double is found on grids. The reals that
round to a double make up an interval; of the grids of powers of ten the coarsest one with a point
in that interval is taken, and of its points in the interval the nearest, a tie going to the even
one.
-/

namespace CobolAtlas

/-- The number `significand * 2 ^ exponent`. Significands stay below 2^53 and exponents between
-1074 and 971; a significand below 2^52 has the least exponent. -/
structure Double where
  significand : Nat
  exponent : Int
  deriving DecidableEq, Repr

namespace Double

def minExponent : Int := -1074

def maxExponent : Int := 971

def zero : Double := ⟨0, minExponent⟩

/-- A quotient, rounded to the nearest whole number. A tie goes to the even one. -/
def roundedQuotient (num den : Nat) : Nat :=
  let below := num / den
  let twice := num % den * 2
  if twice > den || (twice = den && below % 2 = 1) then below + 1 else below

/-- The greatest power of two that is not above a positive quotient. -/
def log2Quotient (num den : Nat) : Int :=
  let guess : Int := num.log2 - den.log2
  if num * Nat.pow 2 (-guess).toNat < den * Nat.pow 2 guess.toNat then guess - 1 else guess

/-- The double nearest to a quotient, if there is one in range. -/
def ofQuotient? (num den : Nat) : Option Double :=
  if num = 0 then some zero
  else
    let exponent := max minExponent (log2Quotient num den - 52)
    let significand :=
      roundedQuotient (num * Nat.pow 2 (-exponent).toNat) (den * Nat.pow 2 exponent.toNat)
    let found : Double :=
      if significand = Nat.pow 2 53 then ⟨Nat.pow 2 52, exponent + 1⟩ else ⟨significand, exponent⟩
    if found.exponent > maxExponent then none else some found

def ofNat? (n : Nat) : Option Double :=
  ofQuotient? n 1

def num (x : Double) : Nat :=
  x.significand * Nat.pow 2 x.exponent.toNat

def den (x : Double) : Nat :=
  Nat.pow 2 (-x.exponent).toNat

def mul? (x y : Double) : Option Double :=
  ofQuotient? (x.num * y.num) (x.den * y.den)

def div? (x y : Double) : Option Double :=
  ofQuotient? (x.num * y.den) (x.den * y.num)

end Double

/-! ### Shortest decimals -/

/-- The number `digits * 10 ^ exponent`. -/
structure Decimal where
  digits : Nat
  exponent : Int
  deriving DecidableEq, Repr

namespace Double

/-- The gap to the double below is half as wide under a power of two. -/
def isNarrowBelow (x : Double) : Bool :=
  x.significand = Nat.pow 2 52 && x.exponent > minExponent

/-- Whether `num / den`, counted in quarters of the unit of a double, rounds to that double. The
ends of the interval round to it if its significand is even. -/
def covers (x : Double) (num den : Nat) : Bool :=
  let low := 4 * x.significand - (if x.isNarrowBelow then 1 else 2)
  let high := 4 * x.significand + 2
  if x.significand % 2 = 0 then low * den ≤ num && num ≤ high * den
  else low * den < num && num < high * den

/-- The multiple of a power of ten that is nearest to a double among those that round to it, if any
does. If the nearest of all does not, it can only be the other neighbour of the double. -/
def onGrid? (x : Double) (power : Int) : Option Decimal :=
  -- The power of ten is `step / den` quarters of the unit.
  let step := Nat.pow 10 power.toNat * Nat.pow 2 (2 - x.exponent).toNat
  let den := Nat.pow 10 (-power).toNat * Nat.pow 2 (x.exponent - 2).toNat
  let value := 4 * x.significand * den
  let below := value / step
  let candidates := [roundedQuotient value step, below, below + 1]
  (candidates.find? fun n => x.covers (n * step) den).map (⟨·, power⟩)

/-- The powers of ten of the doubles, the coarsest first. -/
def powersOfTen : List Int :=
  (List.range 633).map fun (n : Nat) => 308 - (n : Int)

def exactDecimal (x : Double) : Decimal :=
  if x.exponent < 0 then ⟨x.significand * Nat.pow 5 (-x.exponent).toNat, x.exponent⟩
  else ⟨x.significand * Nat.pow 2 x.exponent.toNat, 0⟩

/-- The decimal with the fewest digits that reads back as a double. -/
def shortestDecimal (x : Double) : Decimal :=
  if x.significand = 0 then ⟨0, 0⟩
  else (powersOfTen.findSome? x.onGrid?).getD x.exactDecimal

end Double

end CobolAtlas

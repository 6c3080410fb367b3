/-!
# Binary floating point of 64 bits

A `Binary64` is a finite number `± significand * 2 ^ exponent`, an infinity or not a number.
`ofRatio` rounds an exact quotient to the nearest such number, a half to the even significand.
Finite numbers have an exact rational value, so comparisons and clock arithmetic do not round.
-/

namespace CheckRouter

inductive Binary64
  | finite (negative : Bool) (significand : Nat) (exponent : Int)
  | infinite (negative : Bool)
  | notNumber (negative : Bool)
  deriving DecidableEq, Repr, Inhabited

namespace Binary64

/-- The quotient rounded to the nearest integer, a half to the even neighbour. -/
def divideToEven (numerator denominator : Nat) : Nat :=
  let quotient := numerator / denominator
  let remainder := numerator % denominator
  if 2 * remainder < denominator then quotient
  else if denominator < 2 * remainder then quotient + 1
  else if quotient % 2 = 0 then quotient
  else quotient + 1

theorem divideToEven_mul (n : Nat) {d : Nat} (positive : 0 < d) : divideToEven (n * d) d = n := by
  simp [divideToEven, Nat.mul_div_cancel n positive, positive]

/-- `numerator / denominator * 2 ^ shift` as a quotient. -/
def scaled (numerator denominator : Nat) (shift : Int) : Nat × Nat :=
  if 0 ≤ shift then (numerator <<< shift.toNat, denominator)
  else (numerator, denominator <<< (-shift).toNat)

/-- The largest exponent `k` with `2 ^ k ≤ numerator / denominator`. -/
def binaryOrder (numerator denominator : Nat) : Int :=
  let guess : Int := (numerator.log2 : Int) - denominator.log2
  let (n, d) := scaled numerator denominator (-guess)
  if n < d then guess - 1 else guess

/-- The number nearest to a quotient. A significand has at most 53 bits and the smallest exponent
is -1074. -/
def ofRatio (negative : Bool) (numerator denominator : Nat) : Binary64 :=
  if numerator = 0 then .finite negative 0 (-1074)
  else
    let exponent := max (-1074) (binaryOrder numerator denominator - 52)
    let (n, d) := scaled numerator denominator (-exponent)
    let significand := divideToEven n d
    let (significand, exponent) :=
      if significand = 1 <<< 53 then (1 <<< 52, exponent + 1) else (significand, exponent)
    if 971 < exponent then .infinite negative else .finite negative significand exponent

/-- The number nearest to `± digits * 10 ^ exponent`. -/
def ofDecimal (negative : Bool) (digits : Nat) (exponent : Int) : Binary64 :=
  if digits = 0 then .finite negative 0 (-1074)
  else if 310 < (digits.log2 / 4 : Nat) + exponent then .infinite negative
  else if ((digits.log2 + 1) / 3 + 1 : Nat) + exponent < -330 then .finite negative 0 (-1074)
  else if 0 ≤ exponent then ofRatio negative (digits * Nat.pow 10 exponent.toNat) 1
  else ofRatio negative digits (Nat.pow 10 (-exponent).toNat)

def ofInt (n : Int) : Binary64 := ofRatio (n < 0) n.natAbs 1

def toRat? : Binary64 → Option Rat
  | .finite negative significand exponent =>
    let size : Rat :=
      if 0 ≤ exponent then mkRat (significand <<< exponent.toNat) 1
      else mkRat significand (1 <<< (-exponent).toNat)
    some (if negative then -size else size)
  | _ => none

/-- The integer that a finite number is equal to, if there is one. -/
def toInt? (x : Binary64) : Option Int := do
  let value ← x.toRat?
  if value.den = 1 then some value.num else none

def isFinite : Binary64 → Bool
  | .finite .. => true
  | _ => false

def isPositive : Binary64 → Bool
  | .finite negative significand _ => !negative && significand != 0
  | .infinite negative => !negative
  | .notNumber _ => false

/-- The number that 64 bits stand for: sign, 11 bits of exponent, 52 bits of significand. -/
def ofBits (bits : Nat) : Binary64 :=
  let negative : Bool := bits >>> 63 % 2 == 1
  let biased : Nat := bits >>> 52 % 2048
  let fraction : Nat := bits % 1 <<< 52
  if biased = 2047 then if fraction = 0 then .infinite negative else .notNumber negative
  else if biased = 0 then .finite negative fraction (-1074)
  else .finite negative (1 <<< 52 + fraction) ((biased : Int) - 1075)

/-- The 64 bits that stand for a number. -/
def toBits (x : Binary64) : Nat :=
  let sign (negative : Bool) : Nat := if negative then 1 <<< 63 else 0
  match x with
  | .finite negative significand exponent =>
    if significand < 1 <<< 52 then sign negative + significand
    else sign negative + (exponent + 1075).toNat <<< 52 + (significand - 1 <<< 52)
  | .infinite negative => sign negative + 2047 <<< 52
  | .notNumber negative => sign negative + 2047 <<< 52 + 1 <<< 51

/-- Decimal text with one place; the exact value is rounded, a half to the even digit. -/
def oneDecimal : Binary64 → String
  | .finite negative significand exponent =>
    let (n, d) := scaled (significand * 10) 1 exponent
    let tenths := divideToEven n d
    (if negative then "-" else "") ++ toString (tenths / 10) ++ "." ++ toString (tenths % 10)
  | .infinite negative => if negative then "-inf" else "inf"
  | .notNumber _ => "nan"

end Binary64

end CheckRouter

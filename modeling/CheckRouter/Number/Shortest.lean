import CheckRouter.Number.Binary64

/-!
# Shortest decimals

Of the decimals that read back as a number `shortest` takes one with the fewest digits, and of those
the nearest. The decimals with a given last place form a grid, and if a grid has a decimal that
reads back, then one of the two around the number does. So the grids are tried from the coarsest on.
-/

namespace CheckRouter

structure Decimal where
  digits : Nat
  exponent : Int
  deriving DecidableEq, Repr

namespace Binary64

/-- The numbers that are rounded to one number, as multiples of a common unit. Both ends belong to
them if the significand is even. -/
structure Span where
  least : Nat
  middle : Nat
  greatest : Nat
  closed : Bool
  deriving DecidableEq, Repr

/-- The span of a number in quarters of its last place, times `factor`. Below a power of two the
numbers lie twice as dense. -/
def span (significand : Nat) (exponent : Int) (factor : Nat) : Span where
  least := (4 * significand - if significand = 1 <<< 52 && -1074 < exponent then 1 else 2) * factor
  middle := 4 * significand * factor
  greatest := (4 * significand + 2) * factor
  closed := significand % 2 = 0

def Span.holds (span : Span) (n : Nat) : Bool :=
  if span.closed then span.least ≤ n && n ≤ span.greatest
  else span.least < n && n < span.greatest

/-- The multiple of `step` that is nearest to the middle among the two around it that a span holds.
Of two that are equally near it is the one with the even digit. -/
def Span.onGrid? (span : Span) (step : Nat) : Option Nat :=
  let below := span.middle / step
  let twice := 2 * (span.middle % step)
  let belowIsNearer : Bool := twice < step || (twice = step && below % 2 = 0)
  match span.holds (below * step), span.holds ((below + 1) * step) with
  | true, true => some (if belowIsNearer then below else below + 1)
  | true, false => some below
  | false, true => some (below + 1)
  | false, false => none

/-- The decimal on the grid of a last place that reads back as `significand * 2 ^ exponent`. -/
def onGrid? (significand : Nat) (exponent place : Int) : Option Decimal :=
  let (factor, unit) := scaled 1 1 (exponent - 2)
  let (factor, step) :=
    if 0 ≤ place then (factor, unit * Nat.pow 10 place.toNat)
    else (factor * Nat.pow 10 (-place).toNat, unit)
  ((span significand exponent factor).onGrid? step).map (⟨·, place⟩)

/-- A place that no digit of `significand * 2 ^ exponent` is above. -/
def topPlace (significand : Nat) (exponent : Int) : Int :=
  ((significand.log2 + 1 : Int) + exponent) * 30103 / 100000 + 1

/-- The shortest decimal that reads back as `significand * 2 ^ exponent`, which is not zero. -/
def shortest (significand : Nat) (exponent : Int) : Decimal :=
  let top := topPlace significand exponent
  let found := (List.range 21).findSome? fun (n : Nat) => onGrid? significand exponent (top - n)
  found.getD ⟨0, 0⟩

end Binary64

namespace Decimal

def zeros (n : Nat) : String := .ofList (List.replicate n '0')

/-- An exponent with its sign and at least two digits. -/
def exponentText (n : Int) : String :=
  let digits := toString n.natAbs
  (if n < 0 then "-" else "+") ++ zeros (2 - digits.length) ++ digits

/-- A decimal in positional notation if its first digit stands at most four places behind the point
and at most sixteen before it, otherwise with an exponent. -/
def text (decimal : Decimal) : String :=
  let digits := toString decimal.digits
  let size : Int := digits.length
  let point := size + decimal.exponent
  if -4 < point && point ≤ 0 then "0." ++ zeros (-point).toNat ++ digits
  else if 0 < point && point < size then
    .ofList (digits.toList.take point.toNat) ++ "." ++ .ofList (digits.toList.drop point.toNat)
  else if 0 < point && point ≤ 16 then digits ++ zeros (point - size).toNat ++ ".0"
  else
    let rest : String := .ofList (digits.toList.drop 1)
    .ofList (digits.toList.take 1) ++ (if rest.isEmpty then "" else "." ++ rest) ++ "e" ++
      exponentText (point - 1)

end Decimal

/-- A number as the shortest text that reads back as it. -/
def Binary64.text : Binary64 → String
  | .finite negative significand exponent =>
    (if negative then "-" else "") ++
      if significand = 0 then "0.0" else (Binary64.shortest significand exponent).text
  | .infinite negative => if negative then "-inf" else "inf"
  | .notNumber _ => "nan"

end CheckRouter

/-
The decimal text of a double: the fewest digits that read back as the same
double and, of those, the ones nearest to its value (from the middle, the even
last digit). `Binary64.shortest` finds the digits; a `Decimal.Style` says how
they are written.
-/
import Retag.Decimal.Binary64

namespace Retag

/-- A decimal magnitude `digits * 10 ^ exponent`. -/
structure Decimal where
  digits : Nat
  exponent : Int
  deriving DecidableEq, Repr

namespace Decimal

/-- The number of decimal digits of a natural. -/
def digitCount (n : Nat) : Nat := (Nat.toDigits 10 n).length

/-- Moves zeros at the end of the digits into the exponent. -/
def trim : Nat → Decimal → Decimal
  | 0, d => d
  | fuel + 1, d =>
    if d.digits ≠ 0 ∧ d.digits % 10 = 0 then trim fuel ⟨d.digits / 10, d.exponent + 1⟩ else d

/-- How the digits of a number are written. -/
structure Style where
  /-- The exponents of the leading digit written without an exponent part. -/
  positional : Int → Bool
  /-- Whether a whole number ends in `.0`. -/
  wholeHasPoint : Bool
  /-- Whether an exponent that is not negative has a sign. -/
  exponentHasPlus : Bool

/-- The text of an exponent. -/
def exponentText (style : Style) (e : Int) : String :=
  if e < 0 then s!"e-{e.natAbs}" else if style.exponentHasPlus then s!"e+{e.natAbs}" else s!"e{e.natAbs}"

/-- The text of a magnitude that is not zero. -/
def text (style : Style) (d : Decimal) : String :=
  let ds := Nat.toDigits 10 d.digits
  let lead : Int := ds.length - 1 + d.exponent
  if style.positional lead then
    if 0 ≤ d.exponent then
      String.ofList (ds ++ List.replicate d.exponent.toNat '0')
        ++ (if style.wholeHasPoint then ".0" else "")
    else if 0 ≤ lead then
      let whole := lead.toNat + 1
      String.ofList (ds.take whole) ++ "." ++ String.ofList (ds.drop whole)
    else
      "0." ++ String.ofList (List.replicate (-lead - 1).toNat '0' ++ ds)
  else
    let fraction := ds.drop 1
    String.ofList (ds.take 1) ++ (if fraction.isEmpty then "" else "." ++ String.ofList fraction)
      ++ exponentText style lead

end Decimal

namespace Binary64

/-- Quarters of the unit of the last place: the double itself, and the ends of
the interval of numbers that round to it. -/
structure Interval where
  low : Nat
  value : Nat
  high : Nat
  /-- The ends round to the double too. -/
  closed : Bool

/-- The interval around a magnitude, in units of `2 ^ (exponent - 2)`. Below a
power of two the doubles lie twice as dense. -/
def interval (x : Binary64) : Interval where
  low := 4 * x.significand - (if x.significand = leastNormal ∧ -1074 < x.exponent then 1 else 2)
  value := 4 * x.significand
  high := 4 * x.significand + 2
  closed := x.significand % 2 == 0

/-- The point of the grid `10 ^ p` nearest to the value that rounds to the
double, if a neighbour of the value on that grid does. Here `unit` is the
numerator and `den` the denominator of the unit of the interval. -/
def nearestOnGrid (i : Interval) (unit den : Nat) (p : Int) : Option Nat :=
  let up := if p < 0 then Nat.pow 10 (-p).toNat else 1
  let down := den * if 0 ≤ p then Nat.pow 10 p.toNat else 1
  let value := i.value * unit * up
  let low := i.low * unit * up
  let high := i.high * unit * up
  let inside (n : Nat) : Bool :=
    if i.closed then low ≤ n * down && n * down ≤ high else low < n * down && n * down < high
  let below := value / down
  let gapBelow := value - below * down
  let gapAbove := (below + 1) * down - value
  match inside below, inside (below + 1) with
  | true, true =>
    some (if gapBelow < gapAbove then below
      else if gapAbove < gapBelow then below + 1
      else if below % 2 = 0 then below else below + 1)
  | true, false => some below
  | false, true => some (below + 1)
  | false, false => none

/-- The shortest digits of a magnitude that is not zero: the first of the grids
of one, two, … seventeen digits with a point that rounds to the double. -/
def shortest (x : Binary64) : Decimal :=
  let i := x.interval
  let e := x.exponent - 2
  let unit := if 0 ≤ e then Nat.pow 2 e.toNat else 1
  let den := if 0 ≤ e then 1 else Nat.pow 2 (-e).toNat
  let lead : Int := Decimal.digitCount (i.value * unit * Nat.pow 10 400 / den) - 401
  let found := (List.range 17).findSome? fun n : Nat =>
    let p := lead - n
    (nearestOnGrid i unit den p).map fun d => (⟨d, p⟩ : Decimal)
  (found.getD ⟨0, 0⟩).trim 20

/-- The text of a double. -/
def text (style : Decimal.Style) (x : Binary64) : String :=
  (if x.negative then "-" else "") ++
    if x.isZero then (if style.wholeHasPoint then "0.0" else "0") else x.shortest.text style

end Binary64

end Retag

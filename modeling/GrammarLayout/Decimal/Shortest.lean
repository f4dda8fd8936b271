import GrammarLayout.Decimal.Binary64

/-!
# Shortest decimal text of a floating point number

Of all decimals that read back as the number, the text has the fewest digits, and of those the
nearest one. A `NumberFormat` then decides how the digits are written.
-/

namespace GrammarLayout.Decimal

/-- The decimal `digits * 10 ^ exponent`. -/
structure Digits where
  digits : Nat
  exponent : Int
  deriving DecidableEq

namespace Binary64

/-- How far below the magnitude the reals that round to it begin, in quarters of the last place.
Below a power of two the neighbours are twice as dense. -/
def lowerGap (x : Binary64) : Nat :=
  if x.significand = Nat.pow 2 52 ∧ -1074 < x.exponent then 1 else 2

/-- Whether the decimal `d * 10 ^ k` rounds to the magnitude of the number. All distances are
measured in quarters of the last place. -/
def readsBack (x : Binary64) (d : Nat) (k : Int) : Bool :=
  let num := d * 4 * Nat.pow 10 k.toNat * Nat.pow 2 (-x.exponent).toNat
  let den := Nat.pow 10 (-k).toNat * Nat.pow 2 x.exponent.toNat
  let low := (4 * x.significand - x.lowerGap) * den
  let high := (4 * x.significand + 2) * den
  if x.significand % 2 = 0 then low ≤ num && num ≤ high else low < num && num < high

/-- The magnitude in units of `10 ^ k`, as a fraction. -/
def inDecimalUnits (x : Binary64) (k : Int) : Nat × Nat :=
  let (num, den) := x.magnitude
  if 0 ≤ k then (num, den * Nat.pow 10 k.toNat) else (num * Nat.pow 10 (-k).toNat, den)

/-- On the grid of multiples of `10 ^ k`, the neighbour of the magnitude that reads back; the
nearer one if both do, and of two equally near ones the even one. -/
def onGrid? (x : Binary64) (k : Int) : Option Nat :=
  let (num, den) := x.inDecimalUnits k
  let below := num / den
  let above := below + 1
  match x.readsBack below k, x.readsBack above k with
  | true, true => some (roundQuotient num den)
  | true, false => some below
  | false, true => some above
  | false, false => none

/-- Tries the grids from coarse to fine, at most `fuel` of them. -/
def searchGrids (x : Binary64) : Nat → Int → Digits
  | 0, k => ⟨(x.onGrid? k).getD 0, k⟩
  | fuel + 1, k =>
    match x.onGrid? k with
    | some d => if d = 0 then searchGrids x fuel (k - 1) else ⟨d, k⟩
    | none => searchGrids x fuel (k - 1)

/-- The decimal exponent of a grid that is certainly too coarse to have more than one digit. -/
def coarsestGrid (x : Binary64) : Int :=
  (x.exponent + (x.significand.log2 : Int) + 1) * 30103 / 100000 + 1

/-- The fewest digits that read back; zero has the digit zero. -/
def shortest (x : Binary64) : Digits :=
  if x.significand = 0 then ⟨0, 0⟩ else x.searchGrids 20 x.coarsestGrid

end Binary64

/-- How digits are written. The decimal exponent is that of the first digit. -/
structure NumberFormat where
  /-- The least decimal exponent written without an exponent part. -/
  leastPositional : Int
  /-- The greatest decimal exponent written without an exponent part. -/
  greatestPositional : Int
  deriving DecidableEq

namespace NumberFormat

def zeros (n : Nat) : List Char := List.replicate n '0'

/-- The digits with the point after the first `whole` of them, filled up with zeros on both
sides; at least one digit follows the point. -/
def positional (ds : List Char) (whole : Int) : List Char :=
  if whole ≤ 0 then '0' :: '.' :: (zeros (-whole).toNat ++ ds)
  else
    let filled := ds ++ zeros (whole.toNat - ds.length)
    let fraction := filled.drop whole.toNat
    filled.take whole.toNat ++ '.' :: (if fraction = [] then ['0'] else fraction)

/-- One digit before the point, if more than one there is a point, and the exponent part with
its sign. -/
def scientific (ds : List Char) (exponent : Int) : List Char :=
  let mantissa :=
    match ds with
    | [] => []
    | [d] => [d]
    | d :: rest => d :: '.' :: rest
  mantissa ++ 'e' :: (if exponent < 0 then '-' else '+') :: Nat.toDigits 10 exponent.natAbs

def write (format : NumberFormat) (x : Binary64) : String :=
  let s := x.shortest
  let ds := Nat.toDigits 10 s.digits
  let exponent : Int := s.exponent + ds.length - 1
  let body :=
    if format.leastPositional ≤ exponent ∧ exponent ≤ format.greatestPositional then
      positional ds (exponent + 1)
    else scientific ds exponent
  String.ofList (if x.negative then '-' :: body else body)

end NumberFormat
end GrammarLayout.Decimal

/-!
# Binary floating point numbers of 64 bits

A finite number is a sign, a significand below `2 ^ 53` and a power of two. All arithmetic is
exact on natural numbers, followed by one rounding to the nearest number, where a value halfway
between two numbers goes to the one with the even significand.
-/

namespace GrammarLayout.Decimal

/-- The number `significand * 2 ^ exponent`, negated if `negative`. The exponent is at least
`-1074`, and above that the significand has all its 53 bits. Zero has a sign as well. -/
structure Binary64 where
  negative : Bool
  significand : Nat
  exponent : Int
  deriving DecidableEq, Repr

namespace Binary64

/-- The quotient rounded to the nearest natural number, ties to even. -/
def roundQuotient (num den : Nat) : Nat :=
  let q := num / den
  let r := num % den
  if 2 * r < den then q
  else if den < 2 * r then q + 1
  else if q % 2 = 0 then q else q + 1

/-- `num / den` in units of `2 ^ q`, as one fraction. -/
def inUnits (num den : Nat) (q : Int) : Nat × Nat :=
  if 0 ≤ q then (num, den * Nat.pow 2 q.toNat) else (num * Nat.pow 2 (-q).toNat, den)

/-- The exponent whose unit gives the quotient 53 bits before the point, or the least one. -/
def unitExponent (num den : Nat) : Int :=
  let estimate : Int := (num.log2 : Int) - (den.log2 : Int) - 52
  let scaled := inUnits num den estimate
  let exact := if scaled.1 < scaled.2 * Nat.pow 2 52 then estimate - 1 else estimate
  max exact (-1074)

/-- The nearest number to `num / den`; none if that is too large for any. -/
def nearest (negative : Bool) (num den : Nat) : Option Binary64 :=
  let q := unitExponent num den
  let scaled := inUnits num den q
  let m := roundQuotient scaled.1 scaled.2
  let rounded : Binary64 :=
    if m = 0 then ⟨negative, 0, -1074⟩
    else if m = Nat.pow 2 53 then ⟨negative, Nat.pow 2 52, q + 1⟩
    else ⟨negative, m, q⟩
  if 971 < rounded.exponent then none else some rounded

/-- The nearest number to a natural number that is not too large. -/
def ofNat (n : Nat) : Binary64 := (nearest false n 1).getD ⟨false, 0, -1074⟩

/-- The magnitude as an exact fraction. -/
def magnitude (x : Binary64) : Nat × Nat :=
  if 0 ≤ x.exponent then (x.significand * Nat.pow 2 x.exponent.toNat, 1)
  else (x.significand, Nat.pow 2 (-x.exponent).toNat)

/-- The magnitude times the magnitude of `y`, rounded once. -/
def mul (x y : Binary64) : Option Binary64 :=
  nearest x.negative (x.magnitude.1 * y.magnitude.1) (x.magnitude.2 * y.magnitude.2)

/-- The magnitude over the magnitude of `y`, rounded once. -/
def div (x y : Binary64) : Option Binary64 :=
  nearest x.negative (x.magnitude.1 * y.magnitude.2) (x.magnitude.2 * y.magnitude.1)

def negate (x : Binary64) : Binary64 := { x with negative := !x.negative }

end Binary64
end GrammarLayout.Decimal

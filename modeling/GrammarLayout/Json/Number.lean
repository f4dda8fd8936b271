import GrammarLayout.Json.Reader

/-!
# Numbers

A numeral is an optional minus sign, digits without a superfluous leading zero, an optional
fraction and an optional exponent. Its value is exact if it is a whole number of up to 64 bits.
Any other value is the significand, as far as it fits into 64 bits, rounded and then scaled by
a power of ten.
-/

namespace GrammarLayout.Json

open Decimal

variable {α : Type} {t : List Char}

/-- The parts of a number as written. -/
structure Numeral where
  negative : Bool
  whole : List Char
  fraction : List Char
  /-- Whether the exponent is negative, and its digits. -/
  exponent : Option (Bool × List Char)
  deriving DecidableEq

theorem length_dropWhile_lt (p : Char → Bool) (c : Char) (t : List Char) :
    (t.dropWhile p).length < (c :: t).length :=
  Nat.lt_succ_of_le (List.dropWhile_suffix p).length_le

/-- At least one digit; `atEnd` is the fault of a text that ends before it. -/
def digits (atEnd : Fault) : Reader (List Char)
  | [] => .error (.before atEnd [])
  | c :: t =>
    if c.isDigit then
      .ok ⟨c :: t.takeWhile Char.isDigit, t.dropWhile Char.isDigit, length_dropWhile_lt _ c t⟩
    else .error (.upon .invalidNumber (c :: t))

/-- The digits before the point. Only the number zero begins with a zero. -/
def wholeDigits (atEnd : Fault) : Reader (List Char)
  | '0' :: t =>
    if (t.head?.map Char.isDigit).getD false then .error (.upon .invalidNumber t)
    else .ok (.ofHead ['0'] '0' t)
  | t => digits atEnd t

/-- The digits before the point, with whether a minus sign stands in front. -/
def signedWhole (atEnd : Fault) : Reader (Bool × List Char)
  | '-' :: t => (wholeDigits atEnd t).map fun d =>
      (d.map (Prod.mk true)).behind '-'
  | t => (wholeDigits atEnd t).map fun d => d.map (Prod.mk false)

/-- Goes on with a fraction, if a point follows. -/
def withFraction (atEnd : Fault) (p : Parsed α t) : Except Misread (Parsed (α × List Char) t) :=
  match h : p.rest with
  | '.' :: r => (digits atEnd r).map fun d => ⟨(p.value, d.value), d.rest, by
      have hd := d.shorter
      have hp := p.shorter
      rw [h, List.length_cons] at hp
      omega⟩
  | _ => .ok (p.map fun a => (a, []))

/-- The sign of an exponent, if there is one, and what follows it. -/
def exponentSign : List Char → Bool × List Char
  | '-' :: t => (true, t)
  | '+' :: t => (false, t)
  | t => (false, t)

theorem length_exponentSign_le (t : List Char) : (exponentSign t).2.length ≤ t.length := by
  unfold exponentSign
  split <;> simp

/-- Goes on with an exponent, if its letter follows. -/
def withExponent (atEnd : Fault) (p : Parsed α t) :
    Except Misread (Parsed (α × Option (Bool × List Char)) t) :=
  match h : p.rest with
  | c :: r =>
    if c = 'e' ∨ c = 'E' then
      (digits atEnd (exponentSign r).2).map fun d =>
        ⟨(p.value, some ((exponentSign r).1, d.value)), d.rest, by
          have hd := d.shorter
          have hp := p.shorter
          have hs := length_exponentSign_le r
          rw [h, List.length_cons] at hp
          omega⟩
    else .ok (p.map fun a => (a, none))
  | [] => .ok (p.map fun a => (a, none))

def Numeral.read (atEnd : Fault) : Reader Numeral := fun t => do
  let whole ← signedWhole atEnd t
  let fractioned ← withFraction atEnd whole
  let complete ← withExponent atEnd fractioned
  return complete.map fun (((negative, whole), fraction), exponent) =>
    ⟨negative, whole, fraction, exponent⟩

/-- Takes digits into the significand as long as it stays below `2 ^ 64`; what is left over
begins with the first digit that does not fit. -/
def absorb : Nat → List Char → Nat × List Char
  | n, [] => (n, [])
  | n, c :: cs =>
    let m := n * 10 + (c.toNat - '0'.toNat)
    if m < UInt64.size then absorb m cs else (n, c :: cs)

/-- Multiplies or divides by a power of ten, rounding the power and then the result. A division
by more than `10 ^ 308` is done in steps. -/
def scale (x : Binary64) (e : Int) : Option Binary64 :=
  if e.natAbs ≤ 308 then
    let power := Binary64.ofNat (Nat.pow 10 e.natAbs)
    if 0 ≤ e then x.mul power else x.div power
  else if x.significand = 0 then some x
  else if h : 0 ≤ e then none
  else do scale (← x.div (Binary64.ofNat (Nat.pow 10 308))) (e + 308)
termination_by e.natAbs
decreasing_by omega

namespace Numeral

def exponentValue (x : Numeral) : Int :=
  match x.exponent with
  | none => 0
  | some (negative, ds) =>
    let e : Nat := ds.foldl (fun n c => n * 10 + (c.toNat - '0'.toNat)) 0
    if negative then -e else e

def real (x : Numeral) : Option Binary64 :=
  let (n, unused) := absorb 0 x.whole
  let (m, dropped) := absorb n x.fraction
  let exponent : Int := unused.length - (x.fraction.length - dropped.length : Nat) + x.exponentValue
  (scale (Binary64.ofNat m) exponent).map fun r => if x.negative then r.negate else r

/-- The value, unless it is too large. A negative zero, and whole numbers outside the ranges of
signed and unsigned words of 64 bits, are floating point. -/
def scalar? (x : Numeral) : Option Scalar :=
  let (n, unused) := absorb 0 x.whole
  if x.fraction = [] ∧ x.exponent = none ∧ unused = [] then
    if !x.negative then some (.integer n)
    else if 0 < n ∧ 2 * n ≤ UInt64.size then some (.integer (-n))
    else some (.real (Binary64.ofNat n).negate)
  else x.real.map .real

/-- The digits of an exponent that come after those with which it leaves the words of 32 bits. -/
def unread : Nat → List Char → List Char
  | _, [] => []
  | n, c :: cs =>
    let m := n * 10 + (c.toNat - '0'.toNat)
    if 2 * m < UInt32.size then unread m cs else cs

/-- The number is too large. An exponent is not read to its end if that is clear before. -/
def tooLarge (x : Numeral) (rest : List Char) : Misread :=
  match x.exponent with
  | none => .before .numberTooLarge rest
  | some (_, ds) => .before .numberTooLarge (unread 0 ds ++ rest)

end Numeral

def number : Reader Scalar := fun t => do
  let p ← Numeral.read .missingValue t
  match p.value.scalar? with
  | some s => return p.map fun _ => s
  | none => throw (p.value.tooLarge p.rest)

end GrammarLayout.Json

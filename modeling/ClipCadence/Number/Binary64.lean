/-!
Double precision numbers as exact values. Every finite one is a multiple of 2⁻¹⁰⁷⁴, the smallest
above zero, and `units` counts these multiples, so that comparing, splitting and rounding are
arithmetic on natural numbers. The sign is kept apart: zero has two of them.

`ofRatio` is the one place where rounding happens: to the nearest double, a tie to the one whose
last bit is zero, and to an infinity from 2¹⁰²⁴ on.
-/

namespace ClipCadence.Number

/-- The quotient rounded to the nearest integer, a tie to the even one. -/
def roundDiv (num den : Nat) : Nat :=
  let quotient := num / den
  let rest := num % den
  if 2 * rest < den then quotient
  else if den < 2 * rest then quotient + 1
  else quotient + quotient % 2

theorem roundDiv_mul (quotient : Nat) {den : Nat} (h : 0 < den) :
    roundDiv (quotient * den) den = quotient := by
  simp [roundDiv, h]

inductive Binary64 where
  | finite (negative : Bool) (units : Nat)
  | infinite (negative : Bool)
  | nan
  deriving DecidableEq, Repr, Inhabited

namespace Binary64

/-- The units in one. -/
def unit : Nat := Nat.pow 2 1074

/-- The units of the first magnitude that is too large to be finite. -/
def limit : Nat := Nat.pow 2 2098

/-- The units of the double nearest to a ratio, with no bound on the magnitude. -/
def roundUnits (num den : Nat) : Nat :=
  let scaled := num * unit
  let step := Nat.pow 2 ((scaled / den).log2 - 52)
  roundDiv scaled (den * step) * step

def ofRatio (negative : Bool) (num den : Nat) : Binary64 :=
  let units := roundUnits num den
  if units < limit then .finite negative units else .infinite negative

def zero : Binary64 := .finite false 0

def ofNat (n : Nat) : Binary64 := ofRatio false n 1

def ofInt (n : Int) : Binary64 := ofRatio (n < 0) n.natAbs 1

/-- The double nearest to `num / 10 ^ 6`. -/
def ofMicros (micros : Int) : Binary64 := ofRatio (micros < 0) micros.natAbs 1000000

def decimalLength (n : Nat) : Nat := (Nat.toDigits 10 n).length

/-- The double nearest to `digits * 10 ^ exponent`. Beyond 400 places on either side the nearest
double is known without computing the power. -/
def ofDecimal (negative : Bool) (digits : Nat) (exponent : Int) : Binary64 :=
  let places := decimalLength digits + exponent
  if digits = 0 ∨ places < -400 then .finite negative 0
  else if 400 < places then .infinite negative
  else if 0 ≤ exponent then ofRatio negative (digits * Nat.pow 10 exponent.toNat) 1
  else ofRatio negative digits (Nat.pow 10 (-exponent).toNat)

def isNonnegative : Binary64 → Bool
  | .finite negative units => !negative || units = 0
  | .infinite negative => !negative
  | .nan => false

def isPositive : Binary64 → Bool
  | .finite negative units => !negative && 0 < units
  | .infinite negative => !negative
  | .nan => false

def isFinite : Binary64 → Bool
  | .finite .. => true
  | _ => false

/-- The integer that a double is, if it is one. -/
def toInt? : Binary64 → Option Int
  | .finite negative units =>
    if units % unit = 0 then
      some (if negative then -(units / unit : Nat) else (units / unit : Nat))
    else none
  | _ => none

/-- A length of time in whole microseconds, a tie to the even one. The part below a second is
first multiplied by a million as a double. -/
def toMicros (units : Nat) : Nat :=
  units / unit * 1000000 + roundDiv (roundUnits (units % unit * 1000000) unit) unit

theorem isNonnegative_of_isPositive {x : Binary64} (h : x.isPositive = true) :
    x.isNonnegative = true := by
  cases x <;> simp_all [isPositive, isNonnegative]

end Binary64

end ClipCadence.Number

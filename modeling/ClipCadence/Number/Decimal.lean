import ClipCadence.Number.Binary64

/-!
Decimal texts of doubles. `shortest` finds the decimal with the fewest digits that reads back as
the same double, and among those the one nearest to it; `rounded` keeps a given number of digits.
A `Layout` says how the digits of a decimal are written down, and each output of the program has
its layout: `plain` in messages and logs, `document` in settings documents, `brief` on the
console.
-/

namespace ClipCadence.Number

/-- The number `digits * 10 ^ exponent`. -/
structure Decimal where
  digits : Nat
  exponent : Int
  deriving DecidableEq, Repr

namespace Decimal

/-- The ratio `num / den` in units of ten to the power `place`. -/
def inPlace (num den : Nat) (place : Int) : Nat × Nat :=
  if 0 ≤ place then (num, den * Nat.pow 10 place.toNat) else (num * Nat.pow 10 (-place).toNat, den)

/-- The place of the leading digit of a positive ratio. -/
def leadingPlace (num den : Nat) : Int :=
  if den ≤ num then Binary64.decimalLength (num / den) - 1
  else
    let length := Binary64.decimalLength (den / num)
    if num * Nat.pow 10 (length - 1) = den then 1 - (length : Int) else -(length : Int)

def trimZeros : Nat → Decimal → Decimal
  | 0, d => d
  | fuel + 1, d =>
    if d.digits ≠ 0 ∧ d.digits % 10 = 0 then trimZeros fuel ⟨d.digits / 10, d.exponent + 1⟩ else d

/-- The same number without trailing zeros among its digits. -/
def normal (d : Decimal) : Decimal := trimZeros (Binary64.decimalLength d.digits) d

def readsBack (units : Nat) (d : Decimal) : Bool :=
  Binary64.ofDecimal false d.digits d.exponent = .finite false units

/-- Of the two neighbours of a double among the decimals of a place, the nearer one that reads
back as it; on a tie the one whose last digit is even. -/
def atPlace? (units : Nat) (place : Int) : Option Decimal :=
  let (num, den) := inPlace units Binary64.unit place
  let below : Decimal := ⟨num / den, place⟩
  let above : Decimal := ⟨num / den + 1, place⟩
  let rest := 2 * (num % den)
  let belowFirst := rest < den ∨ (rest = den ∧ below.digits % 2 = 0)
  let choices := if belowFirst then [below, above] else [above, below]
  choices.find? (readsBack units)

/-- All the digits of a double; there are finitely many, since two divides ten. -/
def exact (units : Nat) : Decimal := ⟨units * Nat.pow 5 1074, -1074⟩

def shortest (units : Nat) : Decimal :=
  let place := leadingPlace units Binary64.unit
  let found := (List.range 17).findSome? fun (extra : Nat) => atPlace? units (place - extra)
  (found.getD (exact units)).normal

/-- The nearest decimal with a number of digits, a tie to the even one. -/
def rounded (precision : Nat) (units : Nat) : Decimal :=
  let place := leadingPlace units Binary64.unit - precision + 1
  let (num, den) := inPlace units Binary64.unit place
  (⟨roundDiv num den, place⟩ : Decimal).normal

end Decimal

/-- How a decimal is written down. -/
structure Layout where
  /-- The places of the leading digit for which there is no exponent. -/
  lowest : Int
  highest : Int
  /-- Whether a whole number without an exponent ends in `.0`. -/
  wholePoint : Bool
  /-- The least number of digits of the exponent. -/
  exponentWidth : Nat
  infinity : String
  nan : String

namespace Layout

def zeros (n : Nat) : List Char := List.replicate n '0'

def exponentForm (layout : Layout) (digits : List Char) (place : Int) : List Char :=
  let mantissa :=
    match digits with
    | first :: second :: rest => first :: '.' :: second :: rest
    | short => short
  let power := Nat.toDigits 10 place.natAbs
  mantissa ++ 'e' :: (if place < 0 then '-' else '+') ::
    (zeros (layout.exponentWidth - power.length) ++ power)

def positional (layout : Layout) (digits : List Char) (exponent place : Int) : List Char :=
  if 0 ≤ exponent then
    digits ++ zeros exponent.toNat ++ (if layout.wholePoint then ['.', '0'] else [])
  else if 0 ≤ place then
    digits.take (place.toNat + 1) ++ '.' :: digits.drop (place.toNat + 1)
  else '0' :: '.' :: (zeros (-place - 1).toNat ++ digits)

def decimal (layout : Layout) (d : Decimal) : List Char :=
  let digits := Nat.toDigits 10 d.digits
  let place := d.exponent + digits.length - 1
  if layout.lowest ≤ place ∧ place ≤ layout.highest then layout.positional digits d.exponent place
  else layout.exponentForm digits place

def signed (negative : Bool) (text : List Char) : List Char :=
  if negative then '-' :: text else text

/-- A double, its digits chosen by `digits` from its units. -/
def double (layout : Layout) (digits : Nat → Decimal) : Binary64 → List Char
  | .nan => layout.nan.toList
  | .infinite negative => signed negative layout.infinity.toList
  | .finite negative units =>
    signed negative (layout.decimal (if units = 0 then ⟨0, 0⟩ else digits units))

def plainLayout : Layout := ⟨-4, 15, true, 2, "inf", "nan"⟩

def documentLayout : Layout := ⟨-5, 15, true, 1, "Infinity", "NaN"⟩

def briefLayout : Layout := ⟨-4, 5, false, 2, "inf", "nan"⟩

end Layout

namespace Binary64

/-- The shortest digits, positional from 10⁻⁴ up to 10¹⁶, with a point or an exponent in any
case. -/
def plain (x : Binary64) : String :=
  String.ofList (Layout.plainLayout.double Decimal.shortest x)

/-- The shortest digits as a number of a settings document. -/
def document (x : Binary64) : List Char := Layout.documentLayout.double Decimal.shortest x

/-- At most six digits and no trailing zeros. -/
def brief (x : Binary64) : String :=
  String.ofList (Layout.briefLayout.double (Decimal.rounded 6) x)

/-- One place after the point, a tie to the even digit. -/
def tenths : Binary64 → String
  | .finite negative units =>
    let value := roundDiv (units * 10) unit
    String.ofList (Layout.signed negative
      (Nat.toDigits 10 (value / 10) ++ '.' :: Nat.toDigits 10 (value % 10)))
  | x => x.plain

end Binary64

end ClipCadence.Number

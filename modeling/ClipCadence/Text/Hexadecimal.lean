/-!
Hexadecimal digits: the digits of a number, the value of a digit of either case, and the number
that digits stand for.
-/

namespace ClipCadence.Text

/-- At least `width` lower-case hexadecimal digits. -/
def hex (width code : Nat) : List Char :=
  let digits := Nat.toDigits 16 code
  List.replicate (width - digits.length) '0' ++ digits

def hexValue? (c : Char) : Option Nat :=
  if c.isDigit then some (c.toNat - '0'.toNat)
  else if 'a' ≤ c ∧ c ≤ 'f' then some (c.toNat - 'a'.toNat + 10)
  else if 'A' ≤ c ∧ c ≤ 'F' then some (c.toNat - 'A'.toNat + 10)
  else none

def isHexDigit (c : Char) : Bool := (hexValue? c).isSome

/-- The number that hexadecimal digits stand for. -/
def ofHex (digits : List Char) : Nat :=
  digits.foldl (fun value c => 16 * value + (hexValue? c).getD 0) 0

end ClipCadence.Text

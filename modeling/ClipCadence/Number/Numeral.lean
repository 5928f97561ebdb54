import ClipCadence.Number.Binary64
import ClipCadence.Text.Blank

/-!
Numbers that are written as a text in a settings file. White space may stand around them, and single
underscores between their characters. An integer may end in a point and zeros, and zeros and
underscores in front of it do not count, not even before its minus. `write` and `padded` go the
other way.
-/

namespace ClipCadence.Number.Numeral

open ClipCadence.Text

def digitValue (c : Char) : Nat := c.toNat - '0'.toNat

def value (digits : List Char) : Nat := digits.foldl (fun n c => 10 * n + digitValue c) 0

def signedInt (negative : Bool) (n : Nat) : Int := if negative then -n else n

/-- The decimal digits of an integer after its sign, which only a negative one has. -/
def write (n : Int) : List Char :=
  if n < 0 then '-' :: Nat.toDigits 10 n.natAbs else Nat.toDigits 10 n.natAbs

/-- Decimal digits, with zeros in front up to a width. -/
def padded (width n : Nat) : List Char :=
  let digits := Nat.toDigits 10 n
  List.replicate (width - digits.length) '0' ++ digits

/-! ### Parts of a number -/

/-- A text without its sign, and whether the sign was a minus. -/
def unsign : List Char → Bool × List Char
  | '-' :: rest => (true, rest)
  | '+' :: rest => (false, rest)
  | text => (false, text)

/-- The part before the first character of a class, and what follows that character. -/
def splitAt (p : Char → Bool) (text : List Char) : List Char × Option (List Char) :=
  let (before, rest) := text.span (!p ·)
  (before, rest.tail?)

/-- A text without its underscores, of which there must be one at least; each must stand alone
and inside the text. -/
def ungrouped? (text : List Char) : Option (List Char) :=
  if text.contains '_' && text.head? ≠ some '_' && text.getLast? ≠ some '_' &&
      !(text.zip text.tail).contains ('_', '_') then
    some (text.filter (· ≠ '_'))
  else none

/-! ### Integers -/

/-- Why a text is no integer. -/
inductive IntegerFault where
  | malformed
  /-- More digits than are read at all. -/
  | tooLong
  deriving DecidableEq, Repr

/-- The longest integer that is read at all. -/
def maxIntLength : Nat := 4300

/-- Whether a character ends the zeros that do not count. -/
def startsInteger (c : Char) : Bool := ('1' ≤ c && c ≤ '9') || c = '-'

/-- The text after zeros and underscores of which `last` was the last one. It is kept if nothing
or a point follows. -/
def afterZeros? (last : Char) : List Char → Option (List Char)
  | [] => some [last]
  | c :: rest =>
    if c = '0' ∨ c = '_' then afterZeros? c rest
    else if c = '.' then some (last :: c :: rest)
    else if startsInteger c then some (c :: rest)
    else none

def dropZeros? : List Char → Option (List Char)
  | [] => none
  | c :: rest =>
    if c = '0' then afterZeros? c rest
    else if startsInteger c then some (c :: rest)
    else none

/-- The text without a point and the zeros after it, if it ends in that way. -/
def dropZeroFraction (text : List Char) : List Char :=
  match splitAt (· = '.') text with
  | (whole, some (digit :: zeros)) =>
    if (digit :: zeros).all (· = '0') then whole else text
  | _ => text

/-- Digits without a zero in front, or a lone zero. -/
def digits (negative : Bool) : List Char → Except IntegerFault Int
  | ['0'] => .ok 0
  | text =>
    let run := text.takeWhile Char.isDigit
    if run.isEmpty || run.head? = some '0' then .error .malformed
    else if maxIntLength < run.length then .error .tooLong
    else if run.length < text.length then .error .malformed
    else .ok (signedInt negative (value run))

/-- An integer. A plus may stand in front of all but a minus. -/
def integer (text : List Char) : Except IntegerFault Int :=
  let unsigned := match trimBy isWhiteSpace text with
    | '+' :: '-' :: _ => none
    | '+' :: rest => dropZeros? rest
    | text => dropZeros? text
  match unsigned with
  | none => .error .malformed
  | some text =>
    let text := dropZeroFraction text
    match (ungrouped? text).getD text with
    | '-' :: text => digits true text
    | text => digits false text

/-! ### Other numbers -/

/-- The digits of an exponent, after a sign or without one. -/
def power? (text : List Char) : Option Int :=
  let (negative, digits) := unsign text
  if digits.isEmpty || !digits.all Char.isDigit then none
  else some (signedInt negative (value digits))

def decimal? (negative : Bool) (text : List Char) : Option Binary64 := do
  let (mantissa, power) := splitAt (fun c => c = 'e' ∨ c = 'E') text
  let (whole, fraction) := splitAt (· = '.') mantissa
  let fraction := fraction.getD []
  let digits := whole ++ fraction
  if digits.isEmpty || !digits.all Char.isDigit then none
  else
    let power ← match power with
      | none => some 0
      | some text => power? text
    some (.ofDecimal negative (value digits) (power - fraction.length))

/-- A number without white space and underscores. -/
def plainReal? (text : List Char) : Option Binary64 :=
  let (negative, rest) := unsign text
  let word := String.ofList (rest.map Char.toLower)
  if word = "inf" ∨ word = "infinity" then some (.infinite negative)
  else if word = "nan" then some .nan
  else decimal? negative rest

/-- A number. White space may stand around one that has no underscores. -/
def real? (text : List Char) : Option Binary64 :=
  plainReal? (trimBy isWhiteSpace text) <|> ((ungrouped? text).bind plainReal?)

end ClipCadence.Number.Numeral

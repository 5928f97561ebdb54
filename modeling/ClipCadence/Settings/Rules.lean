import ClipCadence.Settings.Basic
import ClipCadence.Validation.Issue

/-!
The rule of each setting: which JSON values it takes, and what it makes of them. Numbers may be
written as texts, and a truth value as a number or a word; whatever is lost by such a conversion
is refused with the reason.
-/

namespace ClipCadence.Settings.Rule

open Number Text Validation

/-! ### Conversions -/

def wordBound : Int := 0x8000000000000000

/-- Whether a double lies strictly between the bounds of a 64-bit integer. -/
def fitsWord (n : Int) : Bool := -wordBound < n && n < wordBound

/-- The integer that a double is. -/
def wholeReal (x : Binary64) : Except Cause Int :=
  if x.isFinite then
    match x.toInt? with
    | none => .error .fraction
    | some n => if fitsWord n then .ok n else .error .integerSize
  else .error .finite

def integerText (text : List Char) : Except Cause Int :=
  (Numeral.integer text).mapError fun
    | .malformed => .integerText
    | .tooLong => .integerSize

def realText (text : List Char) : Except Cause Binary64 :=
  match Numeral.real? text with
  | some x => .ok x
  | none => .error .numberText

def falseWords : List String := ["0", "off", "f", "false", "n", "no"]

def trueWords : List String := ["1", "on", "t", "true", "y", "yes"]

def booleanText (text : List Char) : Except Cause Bool :=
  let word := String.ofList (text.map Char.toLower)
  if falseWords.contains word then .ok false
  else if trueWords.contains word then .ok true
  else .error .booleanText

def booleanInt (n : Int) : Except Cause Bool :=
  if n = 0 then .ok false
  else if n = 1 then .ok true
  else if n = -wordBound ∨ fitsWord n then .error .booleanText
  else .error .boolean

/-- The characters of a text without halves of surrogate pairs. -/
def chars (text : RawText) : Except Cause (List Char) :=
  match text.chars? with
  | some chars => .ok chars
  | none => .error .unicode

def integer : Json → Except Cause Int
  | .int n => .ok n
  | .bool b => .ok (if b then 1 else 0)
  | .real x => wholeReal x
  | .text text => chars text >>= integerText
  | _ => .error .integer

def real : Json → Except Cause Binary64
  | .real x => .ok x
  | .int n =>
    let x := Binary64.ofInt n
    if x.isFinite then .ok x else .error .number
  | .bool b => .ok (.ofNat (if b then 1 else 0))
  | .text text => chars text >>= realText
  | _ => .error .number

def boolean : Json → Except Cause Bool
  | .bool b => .ok b
  | .int n => booleanInt n
  | .real x =>
    match wholeReal x with
    | .ok n => booleanInt n
    | .error _ => .error .boolean
  | .text text => chars text >>= booleanText
  | _ => .error .boolean

def rawText : Json → Except Cause RawText
  | .text text => .ok text
  | _ => .error .string

/-! ### Rules -/

def count (raw : Json) : Except Cause Nat := do
  let n ← integer raw
  if 1 ≤ n then .ok n.toNat else .error (.atLeast 1)

def delay (raw : Json) : Except Cause Binary64 := do
  let x ← real raw
  if x.isNonnegative then .ok x else .error (.atLeast 0)

def timeout (raw : Json) : Except Cause Binary64 := do
  let x ← real raw
  if x.isPositive then .ok x else .error (.above 0)

def label (raw : Json) : Except Cause String := do
  let text ← rawText raw
  let label ← chars text
  if label.isEmpty then .error .empty else .ok (String.ofList label)

def backend : Json → Except Cause (Option RawText)
  | .null => .ok none
  | raw => (rawText raw).map some

end ClipCadence.Settings.Rule

import ClipCadence.Json.Value
import ClipCadence.Text.Hexadecimal

/-!
Reading JSON documents. The reader accepts the numbers `NaN`, `Infinity` and `-Infinity` and half
surrogate pairs; it refuses control characters in strings. An error names its cause and the
number of characters before it.

The reader goes over a list of characters and carries the number of characters already read.
`value`, `items` and `members` take an amount of fuel, which `parse` chooses larger than any
document can use: two units for each character. They also take the number of lists and objects
that may still be opened inside each other; a document that opens more is refused at that point.
-/

namespace ClipCadence.Json

open Text Number

inductive Fault where
  | value
  | propertyName
  | colon
  | comma
  | extraData
  | unterminatedString
  | controlCharacter
  | escape
  | unicodeEscape
  | byteOrderMark
  deriving DecidableEq, Repr

def Fault.message : Fault → String
  | .value => "Expecting value"
  | .propertyName => "Expecting property name enclosed in double quotes"
  | .colon => "Expecting ':' delimiter"
  | .comma => "Expecting ',' delimiter"
  | .extraData => "Extra data"
  | .unterminatedString => "Unterminated string starting at"
  | .controlCharacter => "Invalid control character at"
  | .escape => "Invalid \\escape"
  | .unicodeEscape => "Invalid \\uXXXX escape"
  | .byteOrderMark => "Unexpected UTF-8 BOM (decode using utf-8-sig)"

/-- What holds other values. -/
inductive Container where
  | list
  | object
  deriving DecidableEq, Repr

inductive ReadError where
  | malformed (fault : Fault) (position : Nat)
  /-- Lists and objects stand too deep inside each other. -/
  | tooDeep (container : Container)
  /-- An integer has more digits than are read at all. -/
  | tooManyDigits (digits : Nat)
  deriving DecidableEq, Repr

abbrev Read (α : Type) := Except ReadError α

/-- The text that is left, and the number of characters before it. -/
abbrev Rest := List Char × Nat

def fail {α : Type} (fault : Fault) (position : Nat) : Read α :=
  .error (.malformed fault position)

def isSpace (c : Char) : Bool := c = ' ' || c = '\t' || c = '\n' || c = '\r'

def skip : List Char → Nat → Rest
  | c :: rest, at_ => if isSpace c then skip rest (at_ + 1) else (c :: rest, at_)
  | [], at_ => ([], at_)

/-! ### Strings

The body of a string is first read into units, one for each character or escape; two adjacent
escapes that name the halves of a surrogate pair are then one character. -/

inductive StringUnit where
  | literal (c : Char)
  | code (n : Nat)

def hex4? (a b c d : Char) : Option Nat := do
  let a ← hexValue? a
  let b ← hexValue? b
  let c ← hexValue? c
  let d ← hexValue? d
  return ((a * 16 + b) * 16 + c) * 16 + d

def shortEscape? : Char → Option Char
  | '"' => some '"'
  | '\\' => some '\\'
  | '/' => some '/'
  | 'b' => some '\x08'
  | 'f' => some '\x0c'
  | 'n' => some '\n'
  | 'r' => some '\r'
  | 't' => some '\t'
  | _ => none

/-- The units up to the closing quote; `start` is the place of the opening one. A `\u` escape
needs a character after its four digits. -/
def units (start : Nat) : List Char → Nat → Read (List StringUnit × Rest)
  | [], _ => fail .unterminatedString start
  | '"' :: rest, at_ => .ok ([], rest, at_ + 1)
  | ['\\'], _ => fail .unterminatedString start
  | '\\' :: 'u' :: a :: b :: c :: d :: e :: rest, at_ =>
    match hex4? a b c d with
    | none => fail .unicodeEscape (at_ + 1)
    | some n => do
      let (tail, rest) ← units start (e :: rest) (at_ + 6)
      return (.code n :: tail, rest)
  | '\\' :: c :: rest, at_ =>
    if c = 'u' then fail .unicodeEscape (at_ + 1)
    else
      match shortEscape? c with
      | none => fail .escape at_
      | some c => do
        let (tail, rest) ← units start rest (at_ + 2)
        return (.literal c :: tail, rest)
  | c :: rest, at_ =>
    if c.toNat < 0x20 then fail .controlCharacter at_
    else do
      let (tail, rest) ← units start rest (at_ + 1)
      return (.literal c :: tail, rest)

def isHigh (n : Nat) : Bool := 0xd800 ≤ n && n < 0xdc00

def isLow (n : Nat) : Bool := 0xdc00 ≤ n && n < 0xe000

def glyph (n : Nat) : Glyph := if isHigh n || isLow n then .half n else .char (Char.ofNat n)

def joined : List StringUnit → RawText
  | [] => []
  | .literal c :: rest => .char c :: joined rest
  | .code high :: .code low :: rest =>
    if isHigh high && isLow low then
      .char (Char.ofNat (0x10000 + (high - 0xd800) * 0x400 + (low - 0xdc00))) :: joined rest
    else glyph high :: joined (.code low :: rest)
  | .code n :: rest => glyph n :: joined rest

/-- A string whose opening quote has been read. -/
def string (rest : List Char) (at_ : Nat) : Read (RawText × Rest) := do
  let (units, rest) ← units (at_ - 1) rest at_
  return (joined units, rest)

/-! ### Numbers -/

/-- A number at the start of a text, as far as it goes: a fraction or an exponent without digits
does not belong to it. -/
structure NumberParts where
  negative : Bool
  whole : List Char
  fraction : List Char
  exponent : Option (Bool × List Char)
  length : Nat

def wholePart : List Char → List Char
  | '0' :: _ => ['0']
  | digits => digits.takeWhile Char.isDigit

def fractionPart : List Char → List Char
  | '.' :: rest => rest.takeWhile Char.isDigit
  | _ => []

/-- The exponent at the start of a text: its sign, its digits, and its length. -/
def exponentPart : List Char → Option (Bool × List Char × Nat)
  | e :: rest =>
    if e = 'e' ∨ e = 'E' then
      let (negative, mark, digits) := match rest with
        | '-' :: rest => (true, 2, rest.takeWhile Char.isDigit)
        | '+' :: rest => (false, 2, rest.takeWhile Char.isDigit)
        | rest => (false, 1, rest.takeWhile Char.isDigit)
      if digits.isEmpty then none else some (negative, digits, mark + digits.length)
    else none
  | [] => none

/-- The parts of a number whose sign has been read. -/
def unsignedParts? (negative : Bool) (body : List Char) : Option NumberParts :=
  let whole := wholePart body
  if whole.isEmpty then none
  else
    let afterWhole := body.drop whole.length
    let fraction := fractionPart afterWhole
    let fractionLength := if fraction.isEmpty then 0 else fraction.length + 1
    let exponent := exponentPart (afterWhole.drop fractionLength)
    let length := (if negative then 1 else 0) + whole.length + fractionLength +
      (exponent.map (·.2.2)).getD 0
    some ⟨negative, whole, fraction, exponent.map fun e => (e.1, e.2.1), length⟩

def numberParts? : List Char → Option NumberParts
  | '-' :: rest => unsignedParts? true rest
  | source => unsignedParts? false source

def number (parts : NumberParts) : Read Json :=
  if parts.fraction.isEmpty && parts.exponent.isNone then
    if Numeral.maxIntLength < parts.whole.length then .error (.tooManyDigits parts.whole.length)
    else .ok (.int (Numeral.signedInt parts.negative (Numeral.value parts.whole)))
  else
    let power := match parts.exponent with
      | some (negative, digits) => Numeral.signedInt negative (Numeral.value digits)
      | none => 0
    .ok (.real (.ofDecimal parts.negative (Numeral.value (parts.whole ++ parts.fraction))
      (power - parts.fraction.length)))

/-! ### Documents -/

/-- The values that are written as one word. -/
def words : List (List Char × Json) := [
  ("null".toList, .null),
  ("true".toList, .bool true),
  ("false".toList, .bool false),
  ("NaN".toList, .real .nan),
  ("Infinity".toList, .real (.infinite false)),
  ("-Infinity".toList, .real (.infinite true))]

/-- A value that is neither a string nor holds other values. -/
def scalar (source : List Char) (at_ : Nat) : Read (Json × Rest) :=
  match words.find? fun word => word.1.isPrefixOf source with
  | some (word, value) => .ok (value, source.drop word.length, at_ + word.length)
  | none =>
    match numberParts? source with
    | none => fail .value at_
    | some parts => do
      let value ← number parts
      return (value, source.drop parts.length, at_ + parts.length)

/-- How many lists and objects the reader follows into each other before it gives up. How many
these are depends on where it is called from; there is always room for a list in an object. -/
structure Room where
  levels : Nat
  two_le : 2 ≤ levels

/-- About the room that there is when a command reads its settings. -/
def Room.usual : Room := ⟨990, by decide⟩

mutual

/-- The value at the start of a text. -/
def value : (fuel room : Nat) → List Char → Nat → Read (Json × Rest)
  | 0, _, _, at_ => fail .value at_
  | fuel + 1, room, source, at_ =>
    match source, room with
    | '"' :: rest, _ => do
      let (value, rest) ← string rest (at_ + 1)
      return (.text value, rest)
    | '[' :: _, 0 => .error (.tooDeep .list)
    | '\x7b' :: _, 0 => .error (.tooDeep .object)
    | '[' :: rest, room + 1 =>
      match skip rest (at_ + 1) with
      | (']' :: rest, at_) => .ok (.list [], rest, at_ + 1)
      | (rest, at_) => do
        let (found, rest) ← items fuel room rest at_
        return (.list found, rest)
    | '\x7b' :: rest, room + 1 =>
      match skip rest (at_ + 1) with
      | ('\x7d' :: rest, at_) => .ok (.object [], rest, at_ + 1)
      | (rest, at_) => do
        let (fields, rest) ← members fuel room [] rest at_
        return (.object fields, rest)
    | _, _ => scalar source at_

/-- The items of a list up to its closing bracket. -/
def items : (fuel room : Nat) → List Char → Nat → Read (List Json × Rest)
  | 0, _, _, at_ => fail .value at_
  | fuel + 1, room, source, at_ => do
    let (item, rest, at_) ← value fuel room source at_
    match skip rest at_ with
    | (']' :: rest, at_) => return ([item], rest, at_ + 1)
    | (',' :: rest, at_) =>
      let (rest, at_) := skip rest (at_ + 1)
      let (found, rest) ← items fuel room rest at_
      return (item :: found, rest)
    | (_, at_) => fail .comma at_

/-- The fields of an object up to its closing brace, after those already read. -/
def members : (fuel room : Nat) → List (RawText × Json) → List Char → Nat →
    Read (List (RawText × Json) × Rest)
  | 0, _, _, _, at_ => fail .value at_
  | fuel + 1, room, fields, source, at_ =>
    match source with
    | '"' :: rest => do
      let (key, rest, at_) ← string rest (at_ + 1)
      match skip rest at_ with
      | (':' :: rest, at_) =>
        let (rest, at_) := skip rest (at_ + 1)
        let (item, rest, at_) ← value fuel room rest at_
        let fields := setField key item fields
        match skip rest at_ with
        | ('\x7d' :: rest, at_) => return (fields, rest, at_ + 1)
        | (',' :: rest, at_) =>
          let (rest, at_) := skip rest (at_ + 1)
          members fuel room fields rest at_
        | (_, at_) => fail .comma at_
      | (_, at_) => fail .colon at_
    | _ => fail .propertyName at_

end

/-- The value that a text is. -/
def parse (source : List Char) (room : Room := .usual) : Read Json :=
  if source.head? = some '\ufeff' then fail .byteOrderMark 0
  else do
    let (start, at_) := skip source 0
    let (result, rest, at_) ← value (2 * source.length + 2) room.levels start at_
    let (rest, at_) := skip rest at_
    if rest.isEmpty then return result else fail .extraData at_

/-! ### Messages -/

/-- The line, the column in it, both counted from one, of a place in a text. -/
def lineAndColumn (source : List Char) (position : Nat) : Nat × Nat :=
  let before := source.take position
  (before.count '\n' + 1, (before.reverse.takeWhile (· ≠ '\n')).length + 1)

def ReadError.message (source : List Char) : ReadError → String
  | .malformed fault position =>
    let (line, column) := lineAndColumn source position
    s!"{fault.message}: line {line} column {column} (char {position})"
  | .tooDeep container =>
    let noun := match container with
      | .list => "array"
      | .object => "object"
    s!"maximum recursion depth exceeded while decoding a JSON {noun} from a unicode string"
  | .tooManyDigits digits =>
    s!"Exceeds the limit ({Numeral.maxIntLength} digits) for integer string conversion: " ++
      s!"value has {digits} digits; use sys.set_int_max_str_digits() to increase the limit"

end ClipCadence.Json

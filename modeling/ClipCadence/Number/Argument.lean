import ClipCadence.Number.Numeral
import ClipCadence.Text.Word

/-!
Numbers on a command line and in environment variables. By which rules they are read is up to the
library that reads the command line, so `Readers` are a parameter of the commands. By the rules of
`Readers.plain` digits may be those of any script, an underscore must have a digit on each side, and
an integer is nothing but digits after its sign, with any number of zeros in front; white space may
stand around every number. By those of `Readers.lax` a number is read as from a text in a settings
file.
-/

namespace ClipCadence.Number.Argument

open Text Numeral

/-- The digit from 0 to 9 for a decimal digit of any script; other characters stay. -/
def plainDigit (c : Char) : Char :=
  match decimalValue? c with
  | some n => n.digitChar
  | none => c

/-- A text without its underscores, each of which must have a digit on each side. The flag says
whether a digit comes before the text. -/
def ungroupFrom? (afterDigit : Bool) : List Char → Option (List Char)
  | [] => some []
  | c :: rest =>
    if c = '_' then
      if afterDigit && rest.head?.any Char.isDigit then ungroupFrom? false rest else none
    else (ungroupFrom? c.isDigit rest).map (c :: ·)

/-- A number in plain digits, without white space around it and without underscores. -/
def plain? (text : List Char) : Option (List Char) :=
  ungroupFrom? false ((trimBy isWhiteSpace text).map plainDigit)

def plainInteger? (text : List Char) : Option Int :=
  let (negative, digits) := unsign text
  if digits.isEmpty || !digits.all Char.isDigit || maxIntLength < digits.length then none
  else some (signedInt negative (value digits))

def integer? (text : List Char) : Option Int := (plain? text).bind plainInteger?

def real? (text : List Char) : Option Binary64 := (plain? text).bind plainReal?

structure Readers where
  integer? : List Char → Option Int
  real? : List Char → Option Binary64

namespace Readers

def plain : Readers := ⟨Argument.integer?, Argument.real?⟩

def lax : Readers := ⟨(Numeral.integer · |>.toOption), Numeral.real?⟩

end Readers

end ClipCadence.Number.Argument

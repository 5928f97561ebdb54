import ClipCadence.Text.Glyph
import ClipCadence.Text.Hexadecimal
import ClipCadence.Text.Printable

/-!
Quoted texts, as logs and validation reports show them. The quote is single unless the text holds
a single quote and no double one. The quote itself, the backslash, tab, line feed and carriage
return have a short escape; other unprintable characters show their code point in two, four or
eight hexadecimal digits, whichever is the first that has room.
-/

namespace ClipCadence.Text

namespace Quoted

def codeEscape (code : Nat) : List Char :=
  if code < 0x100 then '\\' :: 'x' :: hex 2 code
  else if code < 0x10000 then '\\' :: 'u' :: hex 4 code
  else '\\' :: 'U' :: hex 8 code

def glyph (quote : Char) : Glyph → List Char
  | .half code => codeEscape code
  | .char c =>
    if c = quote ∨ c = '\\' then ['\\', c]
    else if c = '\t' then ['\\', 't']
    else if c = '\n' then ['\\', 'n']
    else if c = '\r' then ['\\', 'r']
    else if isPrintable c then [c]
    else codeEscape c.toNat

def quoteFor (text : RawText) : Char :=
  if text.contains (.char '\'') && !text.contains (.char '"') then '"' else '\''

end Quoted

def RawText.quoted (text : RawText) : String :=
  let quote := Quoted.quoteFor text
  String.ofList (quote :: text.flatMap (Quoted.glyph quote) ++ [quote])

def quoted (text : String) : String := (RawText.ofString text).quoted

end ClipCadence.Text

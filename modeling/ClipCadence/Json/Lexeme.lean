import ClipCadence.Text.Hexadecimal

/-!
Lexemes of JSON documents, which need not be well formed: strings, words, numbers, blanks, runs of
punctuation, comments, and single characters that are none of these.
-/

namespace ClipCadence.Json

namespace Lexeme

open Text

/-- What a lexeme is up to a place inside of it, and with it which characters it may go on with. -/
inductive State where
  | string
  | escape
  | unicodeEscape (digits : Nat)
  | blank
  | word
  | number
  | punctuation
  | slash
  | lineComment
  | blockComment (afterStar : Bool)
  | finished
  deriving DecidableEq, Repr

def isBlank (c : Char) : Bool := c = ' ' || c = '\n' || c = '\r' || c = '\t'

def isPunctuation (c : Char) : Bool := "\x7b\x7d[],".toList.contains c

def first (c : Char) : State :=
  if c = '"' then .string
  else if isBlank c then .blank
  else if c = 'f' || c = 'n' || c = 't' then .word
  else if c.isDigit || c = '-' then .number
  else if isPunctuation c || c = ':' then .punctuation
  else if c = '/' then .slash
  else .finished

/-- The state after one more character, unless the lexeme ends before it. -/
def next? : State → Char → Option State
  | .string, c => some (if c = '"' then .finished else if c = '\\' then .escape else .string)
  | .escape, c => some (if c = 'u' then .unicodeEscape 4 else .string)
  | .unicodeEscape digits, c =>
    some (if isHexDigit c && 1 < digits then .unicodeEscape (digits - 1) else .string)
  | .blank, c => if isBlank c then some .blank else none
  | .word, c => if "truefalsn".toList.contains c then some .word else none
  | .number, c => if c.isDigit || "-.eE+".toList.contains c then some .number else none
  | .punctuation, c => if isPunctuation c then some .punctuation else none
  | .slash, c =>
    if c = '/' then some .lineComment
    else if c = '*' then some (.blockComment false)
    else none
  | .lineComment, c => if c = '\n' then none else some .lineComment
  | .blockComment afterStar, c =>
    some (if c = '*' then .blockComment true
      else if afterStar && c = '/' then .finished
      else .blockComment false)
  | .finished, _ => none

/-- The lexemes of a text after a part of the first one, whose last character comes first. -/
def split : State → List Char → List Char → List (List Char)
  | _, current, [] => [current.reverse]
  | state, current, c :: rest =>
    match next? state c with
    | some state => split state (c :: current) rest
    | none => current.reverse :: split (first c) [c] rest

end Lexeme

def lexemes : List Char → List (List Char)
  | [] => []
  | c :: rest => Lexeme.split (Lexeme.first c) [c] rest

end ClipCadence.Json

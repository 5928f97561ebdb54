import ClipCadence.Json.Value

/-!
Writing JSON documents. Lists and objects have one item a line, indented by two blanks a level;
a number that is not finite is written as `null`. Characters outside ASCII stand for themselves;
half of a surrogate pair is written as its escape.
-/

namespace ClipCadence.Json

open Text

namespace Writer

def escaped : Glyph → List Char
  | .half code => '\\' :: 'u' :: hex 4 code
  | .char c =>
    match c with
    | '"' => ['\\', '"']
    | '\\' => ['\\', '\\']
    | '\x08' => ['\\', 'b']
    | '\x0c' => ['\\', 'f']
    | '\n' => ['\\', 'n']
    | '\r' => ['\\', 'r']
    | '\t' => ['\\', 't']
    | c => if c.toNat < 0x20 then '\\' :: 'u' :: hex 4 c.toNat else [c]

def string (text : RawText) : List Char := '"' :: text.flatMap escaped ++ ['"']

def indent (level : Nat) : List Char := '\n' :: List.replicate (2 * level) ' '

/-- A list or an object whose items have been written. -/
def bracketed (first last : Char) (level : Nat) : List (List Char) → List Char
  | [] => [first, last]
  | items =>
    first :: List.intercalate [','] (items.map (indent (level + 1) ++ ·)) ++
      indent level ++ [last]

mutual

def value (level : Nat) : Json → List Char
  | .null => "null".toList
  | .bool b => (if b then "true" else "false").toList
  | .int n => Number.Numeral.write n
  | .real x => if x.isFinite then x.document else "null".toList
  | .text content => string content
  | .list contents => bracketed '[' ']' level (items (level + 1) contents)
  | .object fields => bracketed '\x7b' '\x7d' level (members (level + 1) fields)

def items (level : Nat) : List Json → List (List Char)
  | [] => []
  | item :: rest => value level item :: items level rest

def members (level : Nat) : List (RawText × Json) → List (List Char)
  | [] => []
  | (key, item) :: rest => (string key ++ ':' :: ' ' :: value level item) :: members level rest

end

end Writer

def write (document : Json) : List Char := Writer.value 0 document

end ClipCadence.Json

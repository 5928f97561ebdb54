import ClipCadence.Text.Hexadecimal
import ClipCadence.Text.Printable
import ClipCadence.Text.Word

/-!
Tokens of the parameters of an action: names, numbers, quoted texts, and signs. The last token says
how the parameters end: as they should, inside of a bracket, or in something that is no token.
-/

namespace ClipCadence.Console.Action

open Text

inductive Token where
  | name (text : String)
  | number (imaginary : Bool)
  /-- A text between quotes, with the reason if it is wrong. -/
  | text (bytes template : Bool) (flaw : Option String)
  | sign (text : String)
  | newline
  | finish
  | unclosed (bracket : Char)
  /-- A backslash that does not stand at the end of a line. -/
  | backslash
  | broken (reason : String)
  deriving DecidableEq, Repr

namespace Scan

/-! ### Names -/

/-- Whether a name may go on with a character; that of another script is looked at later. -/
def isNameChar (c : Char) : Bool := c.isAlphanum || c = '_' || 0x80 ≤ c.toNat

def isNameStart (c : Char) : Bool := isNameChar c && !c.isDigit

def strayCharacter (c : Char) : String :=
  let code := String.ofList ((hex 4 c.toNat).map Char.toUpper)
  if isPrintable c then s!"invalid character '{c}' (U+{code})"
  else s!"invalid non-printable character U+{code}"

/-- The first character that cannot be at its place in a name. -/
def stray? : List Char → Option Char
  | [] => none
  | c :: rest => if isWord c && !isDecimal c then rest.find? (!isWord ·) else some c

/-! ### Numbers -/

/-- The rest of some digits, between which single underscores may stand. -/
def afterDigits? : List Char → Option (List Char)
  | [] => some []
  | c :: rest =>
    if c.isDigit then afterDigits? rest
    else if c = '_' then if rest.head?.any Char.isDigit then afterDigits? rest else none
    else some (c :: rest)

def startsDigit (text : List Char) : Bool := text.head?.any Char.isDigit

/-- Whether one of the words that may follow a number comes next. -/
def startsFollower (rest : List Char) : Bool :=
  ["if", "in", "is"].any (fun word => word.toList.isPrefixOf rest) ||
    ["and", "else", "for", "not", "or"].any fun word =>
      word.toList.isPrefixOf rest && !(rest.drop word.length).head?.any isNameChar

/-- What is left after a number of a kind, which no other name may follow at once. -/
def checkEnd (kind : String) (rest : List Char) : Except String (List Char) :=
  if startsFollower rest then .ok rest
  else if rest.head?.any fun c => c.isAlphanum || c = '_' then .error s!"invalid {kind} literal"
  else .ok rest

def orInvalid {α : Type} (kind : String) : Option α → Except String α
  | some value => .ok value
  | none => .error s!"invalid {kind} literal"

/-- What is left of a number in another base, after the letter for the base. -/
def afterBase (kind : String) (isDigit : Char → Bool) :
    (needsDigit : Bool) → List Char → Except String (List Char)
  | needsDigit, [] => if needsDigit then .error s!"invalid {kind} literal" else .ok []
  | needsDigit, c :: rest =>
    if isDigit c then afterBase kind isDigit false rest
    else if c.isDigit then .error s!"invalid digit '{c}' in {kind} literal"
    else if needsDigit then .error s!"invalid {kind} literal"
    else if c = '_' then afterBase kind isDigit true rest
    else checkEnd kind (c :: rest)

/-- What is left of a number after its exponent, if it has one. -/
def afterExponent (rest : List Char) : Except String (List Char) :=
  match rest with
  | e :: tail =>
    if e = 'e' ∨ e = 'E' then
      match tail with
      | sign :: digits =>
        if sign = '+' ∨ sign = '-' then
          if startsDigit digits then orInvalid "decimal" (afterDigits? digits)
          else .error "invalid decimal literal"
        else if sign.isDigit then orInvalid "decimal" (afterDigits? tail)
        else checkEnd "decimal" rest
      | [] => checkEnd "decimal" rest
    else .ok rest
  | [] => .ok rest

/-- Whether a number is imaginary, and what is left of it after its whole digits. -/
def afterWhole (leadingZero : Bool) (rest : List Char) : Except String (Bool × List Char) := do
  let (hasFraction, tail) ← match rest with
    | '.' :: tail => do
      let tail ← if startsDigit tail then orInvalid "decimal" (afterDigits? tail) else pure tail
      pure (true, tail)
    | tail => pure (false, tail)
  let last ← afterExponent tail
  match last with
  | c :: more =>
    if c = 'j' ∨ c = 'J' then return (true, ← checkEnd "imaginary" more)
    else pure ()
  | [] => pure ()
  if leadingZero && !hasFraction && !tail.head?.any fun c => c = 'e' || c = 'E' then
    .error ("leading zeros in decimal integer literals are not permitted; " ++
      "use an 0o prefix for octal integers")
  return (false, ← checkEnd "decimal" last)

/-- Whether the number at the start of a text is imaginary, and what is left of the text. -/
def number : List Char → Except String (Bool × List Char)
  | '0' :: c :: rest =>
    let based (kind : String) (isDigit : Char → Bool) : Except String (Bool × List Char) :=
      let digits := if rest.head? = some '_' then rest.tail else rest
      (afterBase kind isDigit true digits).map (false, ·)
    if c = 'x' ∨ c = 'X' then based "hexadecimal" isHexDigit
    else if c = 'o' ∨ c = 'O' then based "octal" fun c => '0' ≤ c && c ≤ '7'
    else if c = 'b' ∨ c = 'B' then based "binary" fun c => c = '0' || c = '1'
    else do
      let tail ← orInvalid "decimal" (afterDigits? (c :: rest))
      let digits := ((c :: rest).take (rest.length + 1 - tail.length)).filter Char.isDigit
      afterWhole (digits.any (· ≠ '0')) tail
  | text => do afterWhole false (← orInvalid "decimal" (afterDigits? text))

/-! ### Quoted texts -/

/-- What stands before the quote that ends a text on some line, and what is left after it. If no
quote ends it, this is the line on which that turns out. -/
def untilQuote (quote : Char) (triple : Bool) (line : Nat) :
    List Char → Except Nat (List Char × List Char)
  | [] => .error line
  | c :: rest =>
    let goOn (line : Nat) : Except Nat (List Char × List Char) :=
      (untilQuote quote triple line rest).map fun (body, rest) => (c :: body, rest)
    if c = quote then
      if !triple then .ok ([], rest)
      else if [quote, quote].isPrefixOf rest then .ok ([], rest.drop 2)
      else goOn line
    else if c = '\n' then if triple then goOn (line + 1) else .error line
    else if c = '\\' then
      match rest with
      | [] => .error line
      | next :: rest =>
        let line := if next = '\n' then line + 1 else line
        (untilQuote quote triple line rest).map fun (body, rest) => (c :: next :: body, rest)
    else goOn line

def textMarks : List String := ["", "b", "u", "r", "f", "br", "rb", "fr", "rf"]

def unterminated (triple : Bool) (line : Nat) : String :=
  let kind := if triple then "triple-quoted string" else "string"
  s!"unterminated {kind} literal (detected at line {line})"

/-- The number of hexadecimal digits after the letter of an escape, and how it is shown. -/
def escapeDigits? (letter : Char) : Option (Nat × String) :=
  if letter = 'x' then some (2, "\\xXX")
  else if letter = 'u' then some (4, "\\uXXXX")
  else if letter = 'U' then some (8, "\\UXXXXXXXX")
  else none

/-- The room for a character in front of an escape that is wrong: others than ASCII are escaped
themselves. -/
def roomFor (c : Char) : Nat := if c.toNat < 0x80 then 1 else 10

def wrongEscape (first last : Nat) (what : String) : String :=
  s!"(unicode error) 'unicodeescape' codec can't decode bytes in position {first}-{last}: " ++ what

def malformedName : String := "malformed \\N character escape"

/-- The room for what should be the name of a character in braces, if it is none. -/
def wrongName? : List Char → Option Nat
  | '\x7b' :: text =>
    let name := text.takeWhile (· ≠ '\x7d')
    if name.isEmpty then some 1
    else if name.length = text.length then some (text.foldl (fun room c => room + roomFor c) 1)
    else none
  | _ => some 0

/-- What is wrong with the first wrong escape of a text after `position` characters. -/
def escapeFlaw? (position : Nat) : List Char → Option String
  | [] => none
  | '\\' :: c :: rest =>
    if 0x80 ≤ c.toNat then escapeFlaw? (position + 6 + roomFor c) rest
    else if c = 'N' then
      match wrongName? rest with
      | some room => some (wrongEscape position (position + 1 + room) malformedName)
      | none => escapeFlaw? (position + 2) rest
    else
      match escapeDigits? c with
      | none => escapeFlaw? (position + 2) rest
      | some (count, shown) =>
        let digits := (rest.take count).takeWhile isHexDigit
        let last := position + 1 + digits.length
        if digits.length < count then
          some (wrongEscape position last s!"truncated {shown} escape")
        else if 0x10ffff < ofHex digits then
          some (wrongEscape position last "illegal Unicode character")
        else escapeFlaw? (position + 2) rest
  | c :: rest => escapeFlaw? (position + roomFor c) rest

/-- What is wrong with the first wrong escape of some bytes after `position` of them. -/
def byteFlaw? (position : Nat) : List Char → Option String
  | [] => none
  | '\\' :: c :: rest =>
    if c = 'x' ∧ ((rest.take 2).takeWhile isHexDigit).length < 2 then
      some s!"(value error) invalid \\x escape at position {position}"
    else byteFlaw? (position + 2) rest
  | _ :: rest => byteFlaw? (position + 1) rest

/-- What is wrong with a quoted text that has some marks. -/
def textFlaw? (marks text : List Char) : Option String :=
  if marks.contains 'b' && text.any fun c => 0x80 ≤ c.toNat then
    some "bytes can only contain ASCII literal characters"
  else if marks.contains 'r' then none
  else if marks.contains 'b' then byteFlaw? 0 text
  else escapeFlaw? 0 text

/-- A quoted text whose marks and first quote have been read, and what is left after it. -/
def quotedText (marks : List Char) (quote : Char) (line : Nat) (rest : List Char) :
    Except String (Token × List Char) :=
  let triple := [quote, quote].isPrefixOf rest
  let body := if triple then rest.drop 2 else rest
  match untilQuote quote triple line body with
  | .error line => .error (unterminated triple line)
  | .ok (text, rest) =>
    .ok (.text (marks.contains 'b') (marks.contains 'f') (textFlaw? marks text), rest)

/-! ### All tokens -/

/-- Signs of more than one character, the longest first. -/
def longSigns : List String := ["**=", "//=", ">>=", "<<=", "...", "!=", "%=", "&=", "**", "*=",
  "+=", "-=", "->", "//", "/=", ":=", "<<", "<=", "<>", "==", ">=", ">>", "@=", "^=", "|="]

def closerOf (c : Char) : Option Char :=
  if c = '(' then some ')'
  else if c = '[' then some ']'
  else if c = '\x7b' then some '\x7d'
  else none

/-- The deepest nesting of brackets. -/
def maxBrackets : Nat := 200

/-- The brackets that are open after one more character, the last one first, each with its line. -/
def bracketsAfter (opened : List (Char × Nat)) (line : Nat) (c : Char) :
    Except String (List (Char × Nat)) :=
  if (closerOf c).isSome then
    if maxBrackets ≤ opened.length then .error "too many nested parentheses"
    else .ok ((c, line) :: opened)
  else if c = ')' ∨ c = ']' ∨ c = '\x7d' then
    match opened with
    | [] => .error s!"unmatched '{c}'"
    | (bracket, start) :: opened =>
      if closerOf bracket = some c then .ok opened
      else
        let mismatch := s!"closing parenthesis '{c}' does not match opening parenthesis '{bracket}'"
        .error (if start = line then mismatch else mismatch ++ s!" on line {start}")
  else .ok opened

/-- The name or the quoted text at the start of a text, and what is left. -/
def word (line : Nat) (text : List Char) : Except String (Token × List Char) :=
  let letters := text.takeWhile isNameChar
  let rest := text.drop letters.length
  let marks := letters.map Char.toLower
  match rest with
  | quote :: rest =>
    if (quote = '"' ∨ quote = '\'') ∧ textMarks.contains (String.ofList marks) then
      quotedText marks quote line rest
    else plain letters (quote :: rest)
  | [] => plain letters []
where
  plain (letters rest : List Char) : Except String (Token × List Char) :=
    match stray? letters with
    | some c => .error (strayCharacter c)
    | none => .ok (.name (String.ofList letters), rest)

/-- The sign at the start of a text, and what is left. -/
def firstSign (c : Char) (rest : List Char) : Token × List Char :=
  match longSigns.find? fun sign => sign.toList.isPrefixOf (c :: rest) with
  | some sign => (.sign sign, (c :: rest).drop sign.length)
  | none => (.sign c.toString, rest)

/-- The token at the start of a text that does not start with a blank, and what is left. -/
def first (line : Nat) : List Char → Except String (Token × List Char)
  | [] => .ok (.finish, [])
  | c :: rest =>
    if isNameStart c ∨ c = '"' ∨ c = '\'' then word line (c :: rest)
    else if c.isDigit then do
      let (imaginary, rest) ← number (c :: rest)
      return (.number imaginary, rest)
    else if c = '.' ∧ startsDigit rest then do
      let (imaginary, rest) ← afterWhole false (c :: rest)
      return (.number imaginary, rest)
    else if isPrintable c then .ok (firstSign c rest)
    else .error (strayCharacter c)

/-- The tokens of a text on some line, inside of some brackets. -/
def tokens : (fuel line : Nat) → (opened : List (Char × Nat)) → List Char → List Token
  | 0, _, _, _ => [.finish]
  | _ + 1, _, opened, [] => [(opened.head?.map fun bracket => .unclosed bracket.1).getD .finish]
  | fuel + 1, line, opened, c :: rest =>
    if c = ' ' ∨ c = '\t' ∨ c = '\x0c' then tokens fuel line opened rest
    else if c = '\n' then
      let found := tokens fuel (line + 1) opened rest
      if opened.isEmpty then .newline :: found else found
    else if c = '#' then tokens fuel line opened (rest.dropWhile (· ≠ '\n'))
    else if c = '\\' then
      match rest with
      | '\n' :: rest => tokens fuel (line + 1) opened rest
      | _ => [.backslash]
    else
      match bracketsAfter opened line c with
      | .error reason => [.broken reason]
      | .ok opened =>
        match first line (c :: rest) with
        | .error reason => [.broken reason]
        | .ok (token, left) =>
          let used := (c :: rest).take (rest.length + 1 - left.length)
          token :: tokens fuel (line + used.count '\n') opened left

end Scan

def Token.ofText (text : List Char) : List Token :=
  if text.contains '\x00' then [.broken "source code string cannot contain null bytes"]
  else Scan.tokens (text.length + 1) 1 [] text

end ClipCadence.Console.Action

import ClipCadence.Console.Styled
import ClipCadence.Text.Hexadecimal
import ClipCadence.Text.Pattern
import ClipCadence.Text.Word

/-!
Highlighting of printed text. Numbers, words with a meaning, quoted texts, paths and addresses of
several kinds get a style of their own. On a plain console this shows only where a style keeps
characters apart that would be measured together, so a text without such characters is left as it
is.
-/

namespace ClipCadence.Console.Highlight

open Text Pattern

def digit : Pattern := .one Char.isDigit

def hexDigit : Pattern := .one isHexDigit

def wordChar : Pattern := .one isWord

/-- A character of a word or one of a few others. -/
def wordOr (chars : String) : Pattern := .one fun c => isWord c || chars.toList.contains c

def wordEdge : Pattern := .edge true isWord

/-- Everything from an opening angle bracket up to the last closing one. -/
def tag : Pattern := all [.mark (char '<'), .mark (star (wordOr "-.:|")),
  .mark (star (.one fun _ => true)), .mark (char '>')]

/-- A name, an equals sign, and perhaps a value. -/
def assignment : Pattern := all [.mark (upTo 50 wordChar), char '=',
  optional (.mark (all [optional (char '"'), plus wordChar, optional (char '"')]))]

def bracket : Pattern := .mark (oneOf "[]()\x7b\x7d")

def dotted : Pattern :=
  let part := upTo 3 digit
  .mark (all [part, char '.', part, char '.', part, char '.', part])

def colons : Pattern :=
  .mark (all [upTo 7 (all [upTo 4 hexDigit, char ':', optional (char ':')]), upTo 4 hexDigit])

/-- A hardware address of `pairs` pairs of digits. -/
def hardware (pairs : Nat) (groups : Nat) : Pattern :=
  let pair := upTo 2 hexDigit
  let four := times 4 hexDigit
  .mark (any [all [times (pairs - 1) (all [pair, char '-']), pair],
    all [times (pairs - 1) (all [pair, char ':']), pair],
    all [times (groups - 1) (all [four, char '.']), four]])

def identifier : Pattern :=
  let digits (n : Nat) := times n hexDigit
  .mark (all [digits 8, char '-', digits 4, char '-', digits 4, char '-', digits 4, char '-',
    digits 12])

def call : Pattern := all [.mark (.many true 0 none (wordOr ".")), char '(']

def constant (text : String) : Pattern := all [wordEdge, .mark (word text), wordEdge]

def ellipsis : Pattern := .mark (word "...")

/-- Digits with a point, and an exponent the digits of which are as few or as many as possible. -/
def decimal (isLazy : Bool) : Pattern := all [plus digit, optional (char '.'), star digit,
  optional (all [char 'e', optional (oneOf "-+"), .many isLazy 1 none (.one isDecimal)])]

def complex : Pattern := .mark (all [.notAfter isWord, optional (char '-'), decimal true,
  optional (all [oneOf "-+", decimal false]), char 'j'])

def number : Pattern := .mark (any [
  all [.notAfter isWord, optional (char '-'), decimal true, wordEdge],
  all [word "0x", star hexDigit]])

def path : Pattern :=
  let name := wordOr "-._+"
  all [.mark (all [.edge false isWord, star (.seq (char '/') (plus name)), char '/']),
    optional (.mark (star name))]

/-- A text between two quotes of a kind. -/
def quotedBy (quote : String) : Pattern :=
  all [optional (char 'b'), word quote, .many true 0 none (.one (· ≠ '\n')),
    .notAfter (· = '\\'), word quote]

def quoted : Pattern := .seq (.notAfter fun c => c = '\\' || isWord c) <|
  .mark (any [quotedBy "'''", quotedBy "'", quotedBy "\"\"\"", quotedBy "\""])

def link : Pattern :=
  let isLinkChar (c : Char) : Bool :=
    c.isAlphanum || "-$_+!\x60(),.?/;:&=%#~@".toList.contains c
  .mark (all [any (["file", "https", "http", "ws", "wss"].map word), word "://",
    star (.one isLinkChar)])

/-- What is highlighted, apart from overlaps by the first alternative of a pattern. -/
def patterns : List Pattern := [tag, assignment, bracket, any [dotted, colons, hardware 8 4,
  hardware 6 3, identifier, call, constant "True", constant "False", constant "None", ellipsis,
  complex, number, path, quoted, link]]

def highlight (text : Styled) : Styled :=
  if text.chars.any isCombiner then
    let found := patterns.flatMap fun pattern => pattern.marks text.chars
    { text with styles := found.map (fun (start, stop) => ⟨start, stop, false⟩) ++ text.styles }
  else text

end ClipCadence.Console.Highlight

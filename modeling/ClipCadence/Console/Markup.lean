import ClipCadence.Console.Action.Literal
import ClipCadence.Console.StyleName
import ClipCadence.Console.Styled
import ClipCadence.Text.Quoted

/-!
Console markup. A tag is a style name in square brackets; it opens a style, and one that starts
with a slash closes the style of its name, or the last one if there is no name. Backslashes before
a tag stand for half their number, and an odd number of them makes the tag plain text. A bracket
that starts no tag loses one backslash before it. A name that starts with an at sign is an action,
whose parameters may follow an equals sign.

`render` is the text that remains, with the stretches of its styles; it fails on a closing tag
without an open one, and on one that closes an action with parameters that are no literal.
`escape` prepares a text for being a part of a template.

A console also puts an emoji in the place of its name between two colons. This is left out here: the
text that remains is what is shown if `hasEmojiCode` finds no such code in it.
-/

namespace ClipCadence.Console.Markup

open Text

def startsTag (c : Char) : Bool := ('a' ≤ c && c ≤ 'z') || c = '#' || c = '/' || c = '@'

/-- The text between the brackets of a tag, given what follows its opening bracket. -/
def tag? : List Char → Option (List Char)
  | [] => none
  | c :: rest =>
    if startsTag c then
      let body := rest.takeWhile fun c => c ≠ '[' && c ≠ ']'
      if (rest.drop body.length).head? = some ']' then some (c :: body) else none
    else none

inductive Token where
  | text (chars : List Char)
  /-- The position is the number of characters before the opening bracket. -/
  | tag (position : Nat) (content : List Char)
  deriving DecidableEq, Repr

def slashes (n : Nat) : List Char := List.replicate n '\\'

def bracketed (content : List Char) : List Char := '[' :: content ++ [']']

/-- The tokens of a text after `position` characters, of which the last `before` are backslashes.
The next `skip` characters belong to a tag that has been read. -/
def tokensFrom (position before : Nat) : (skip : Nat) → List Char → List Token
  | _, [] => [.text (slashes before)]
  | skip + 1, _ :: rest => tokensFrom (position + 1) 0 skip rest
  | 0, c :: rest =>
    if c = '\\' then tokensFrom (position + 1) (before + 1) 0 rest
    else if c = '[' then
      match tag? rest with
      | none => .text (slashes (before - 1) ++ ['[']) :: tokensFrom (position + 1) 0 0 rest
      | some content =>
        let after := tokensFrom (position + 1) 0 (content.length + 1) rest
        if before % 2 = 0 then
          .text (slashes (before / 2)) :: .tag position content :: after
        else .text (slashes (before / 2) ++ bracketed content) :: after
    else .text (slashes before ++ [c]) :: tokensFrom (position + 1) 0 0 rest

def tokens (text : List Char) : List Token := tokensFrom 0 0 0 text

inductive Error where
  | nothingToClose (position : Nat)
  | notOpen (content : List Char) (position : Nat)
  /-- A style name has a colour without one of its numbers. -/
  | emptyNumber
  /-- The parameters of an action are refused. -/
  | action (parameters : List Char) (fault : Action.Fault)
  /-- The text that remains cannot be encoded. -/
  | unencodable
  deriving DecidableEq, Repr

def Error.message : Error → String
  | .nothingToClose position => s!"closing tag '[/]' at position {position} has nothing to close"
  | .notOpen content position =>
    "closing tag '" ++ String.ofList (bracketed content) ++
      s!"' at position {position} doesn't match any open tag"
  | .emptyNumber => "invalid literal for int() with base 10: ''"
  | .action parameters (.form read reason) =>
    let part := quoted (String.ofList read)
    let whole := quoted (String.ofList parameters)
    s!"error parsing {part} in {whole}; {reason}"
  | .action parameters (.value reason) =>
    let whole := quoted (String.ofList parameters)
    s!"error parsing {whole}; {reason}"
  | .unencodable => "surrogates not allowed"

/-! ### Styles -/

/-- A style that has been opened after `start` characters. -/
structure Opened where
  start : Nat
  name : List Char
  /-- What follows an equals sign. -/
  parameters : Option (List Char)
  deriving DecidableEq, Repr

def styleName (name : List Char) : Except Error (List Char) :=
  match StyleName.normal? name with
  | some name => .ok name
  | none => .error .emptyNumber

/-- The style that a closing tag closes, given the name in it and the open styles, of which the
last one comes first. -/
def closed (position : Nat) (content name : List Char) (opened : List Opened) :
    Except Error Opened :=
  if name.isEmpty then
    match opened with
    | [] => .error (.nothingToClose position)
    | last :: _ => .ok last
  else do
    let name ← styleName name
    match opened.find? (·.name = name) with
    | some found => return found
    | none => .error (.notOpen content position)

/-- Checks a style that is closed: the parameters of an action have to be a literal. -/
def Opened.check (style : Opened) : Except Error Unit :=
  match style.name, style.parameters with
  | '@' :: _, some parameters =>
    (Action.check parameters).mapError (.action parameters ·)
  | _, _ => .ok ()

/-- The characters of a style that ends after `length` of them. What follows an equals sign is a
part of the style that is looked at only when the style is shown. -/
def Opened.stretch (style : Opened) (length : Nat) : Stretch where
  start := style.start
  stop := length
  isFlawed := style.parameters.any fun parameters =>
    (StyleName.normal? (style.name ++ ' ' :: parameters)).isNone

/-- The text of some tokens after `length` characters, given the open styles. -/
def renderTokens : (length : Nat) → List Opened → List Token → Except Error Styled
  | length, opened, [] => .ok ⟨[], opened.map fun style => style.stretch length⟩
  | length, opened, .text chars :: rest => do
    let chars := sanitize chars
    let text ← renderTokens (length + chars.length) opened rest
    return { text with chars := chars ++ text.chars }
  | length, opened, .tag position content :: rest => do
    let (name, parameters) := content.span (· ≠ '=')
    match name with
    | '/' :: name =>
      let style ← closed position content (trim name) opened
      style.check
      let text ← renderTokens length (opened.erase style) rest
      return { text with styles := style.stretch length :: text.styles }
    | name => renderTokens length (⟨length, ← styleName name, parameters.tail?⟩ :: opened) rest

def render (text : List Char) : Except Error Styled := renderTokens 0 [] (tokens text)

/-- The rows of lines that are shown, unless one of them has a style that cannot be shown. -/
def rows (lines : List Styled) : Except Error (List Row) :=
  if lines.any Styled.isFlawed then .error .emptyNumber else .ok (lines.map Styled.pieces)

/-- Whether a half of a surrogate pair is left of a text: then it matters what stands for it. -/
def showsHalf (text : RawText) : Bool :=
  let left (mark : Char) := (render (text.map (Glyph.marked mark))).toOption.map Styled.chars
  left '\ufffd' != left '\ufffe'

/-! ### Emoji codes -/

/-- Whether a text starts with what may be the name of an emoji, and a colon after it. -/
def startsEmojiCode (text : List Char) : Bool :=
  let name := text.takeWhile fun c => c ≠ ':' && !isBlank c
  !name.isEmpty && (text.drop name.length).head? = some ':'

/-- Whether what may be the name of an emoji stands between two colons in a text. -/
def hasEmojiCode : List Char → Bool
  | [] => false
  | c :: rest => (c = ':' && startsEmojiCode rest) || hasEmojiCode rest

/-! ### Escaping -/

/-- A text with the backslashes before each of its tags doubled and one more put before the tag;
the next `skip` characters belong to a tag that has been read, and `before` backslashes have. -/
def escapeFrom (before : Nat) : (skip : Nat) → List Char → List Char
  | _, [] => slashes before
  | skip + 1, c :: rest => c :: escapeFrom 0 skip rest
  | 0, c :: rest =>
    if c = '\\' then escapeFrom (before + 1) 0 rest
    else if c = '[' then
      match tag? rest with
      | none => slashes before ++ '[' :: escapeFrom 0 0 rest
      | some content =>
        slashes (2 * before + 1) ++ '[' :: escapeFrom 0 (content.length + 1) rest
    else slashes before ++ c :: escapeFrom 0 0 rest

/-- Whether a text ends in exactly one backslash. -/
def endsInOneSlash (text : List Char) : Bool :=
  match text.reverse with
  | '\\' :: '\\' :: _ => false
  | '\\' :: _ => true
  | _ => false

def escape (text : List Char) : List Char :=
  let escaped := escapeFrom 0 0 text
  if endsInOneSlash escaped then escaped ++ ['\\'] else escaped

end ClipCadence.Console.Markup

import ClipCadence.Console.Row
import ClipCadence.Text.Blank

/-!
Text with styles. A style holds for a stretch of the text; only where stretches start and stop is
kept, since that is all of a style that shows on a plain console: `pieces` cuts a text at the
bounds of its stretches into a row.

A stretch without characters cuts a text as well, but is lost as soon as the text is divided.
-/

namespace ClipCadence.Console

open Text

/-- The characters from `start` up to `stop`. -/
structure Stretch where
  start : Nat
  stop : Nat
  /-- Whether the style cannot be shown. -/
  isFlawed : Bool
  deriving DecidableEq, Repr

namespace Stretch

def shift (n : Nat) (s : Stretch) : Stretch := { s with start := s.start + n, stop := s.stop + n }

/-- The part of a stretch between two numbers of characters, counted from the first one. -/
def within? (first last : Nat) (s : Stretch) : Option Stretch :=
  let start := s.start - first
  let stop := min s.stop last - first
  if start < stop then some { s with start := start, stop := stop } else none

end Stretch

structure Styled where
  chars : List Char
  styles : List Stretch
  deriving DecidableEq, Repr

/-- Bell, backspace, vertical tab, form feed and carriage return are never printed. -/
def isDropped (c : Char) : Bool := [7, 8, 11, 12, 13].contains c.toNat

def sanitize (text : List Char) : List Char := text.filter (!isDropped ·)

namespace Styled

/-- A text without styles. -/
def plain (text : List Char) : Styled := ⟨sanitize text, []⟩

def empty : Styled := ⟨[], []⟩

def append (first second : Styled) : Styled :=
  ⟨first.chars ++ second.chars, first.styles ++ second.styles.map (·.shift first.chars.length)⟩

def join (parts : List Styled) : Styled := parts.foldr append empty

def length (text : Styled) : Nat := text.chars.length

/-- Whether a style of the text cannot be shown. -/
def isFlawed (text : Styled) : Bool := text.styles.any (·.isFlawed)

/-- The cells that a text covers in one piece. -/
def cells (text : Styled) : Nat := Text.cells text.chars

/-- The pieces of the characters that are left after `position` characters, of which `current`
begin the next piece, the last one first. -/
def piecesFrom (cuts : List Nat) (position : Nat) (current : List Char) : List Char → Row
  | [] => if current.isEmpty then [] else [current.reverse]
  | c :: rest =>
    if cuts.contains position && !current.isEmpty then
      current.reverse :: piecesFrom cuts (position + 1) [c] rest
    else piecesFrom cuts (position + 1) (c :: current) rest

def pieces (text : Styled) : Row :=
  piecesFrom (text.styles.flatMap fun s => [s.start, s.stop]) 0 [] text.chars

theorem flatten_piecesFrom (cuts : List Nat) (position : Nat) (current rest : List Char) :
    (piecesFrom cuts position current rest).flatten = current.reverse ++ rest := by
  induction rest generalizing position current with
  | nil => cases current <;> simp [piecesFrom]
  | cons c rest ih =>
    rw [piecesFrom]
    split <;> simp [ih]

@[simp] theorem flatten_pieces (text : Styled) : text.pieces.flatten = text.chars := by
  simp [pieces, flatten_piecesFrom]

/-! ### Parts of a text -/

def slice (text : Styled) (start stop : Nat) : Styled where
  chars := (text.chars.drop start).take (stop - start)
  styles := text.styles.filterMap (Stretch.within? start stop)

/-- The parts between some numbers of characters. -/
def divide (text : Styled) : List Nat → List Styled
  | [] => [text]
  | cuts => ((0 :: cuts).zip (cuts ++ [text.length])).map fun (start, stop) =>
    text.slice start stop

/-- The numbers of characters before the occurrences of a character. -/
def positions (c : Char) (text : Styled) : List Nat :=
  (text.chars.zipIdx.filter (·.1 = c)).map (·.2)

def lines (text : Styled) : List Styled :=
  match text.positions '\n' with
  | [] => [text]
  | ends => ((0 :: ends.map (· + 1)).zip (ends ++ [text.length])).map fun (start, stop) =>
    text.slice start stop

/-- The first characters of a text. -/
def take (n : Nat) (text : Styled) : Styled where
  chars := text.chars.take n
  styles := (text.styles.filter (·.start < n)).map fun s => { s with stop := min n s.stop }

/-- A text that is cut if it covers more than `width` cells. -/
def truncate (width : Nat) (text : Styled) : Styled :=
  if width < text.cells then
    let chars := resize width text.chars
    { text.take chars.length with chars := chars }
  else text

def trimEnd (text : Styled) : Styled := text.take (Text.trimEnd text.chars).length

/-- A text without the blanks at its end that are beyond `width` characters. -/
def dropExcess (width : Nat) (text : Styled) : Styled :=
  let blanks := text.length - (Text.trimEnd text.chars).length
  text.take (text.length - min blanks (text.length - width))

/-! ### Blanks around a text -/

def padLeft (n : Nat) (text : Styled) : Styled := append ⟨Row.blanks n, []⟩ text

def padRight (n : Nat) (text : Styled) : Styled := append text ⟨Row.blanks n, []⟩

/-- Blanks after a text, which get the styles that reach up to its end. -/
def extend (n : Nat) (text : Styled) : Styled where
  chars := text.chars ++ Row.blanks n
  styles := text.styles.map fun s =>
    if text.length ≤ s.stop then { s with stop := s.stop + n } else s

/-- Parts that end in tabs, all but the last one, with the tabs filled up to the next multiple of
`size` cells, after `column` cells. -/
def expandParts (size column : Nat) : List Styled → List Styled
  | [] => []
  | part :: rest =>
    if part.chars.getLast? = some '\t' then
      let part := { part with chars := part.chars.dropLast ++ [' '] }
      let column := column + part.cells
      let fill := (size - column % size) % size
      part.extend fill :: expandParts size (column + fill) rest
    else part :: expandParts size (column + part.cells) rest

/-- A line with every tab filled up to the next multiple of `size` cells. -/
def expandTabs (size : Nat) (line : Styled) : Styled :=
  match line.positions '\t' with
  | [] => line
  | tabs => join (expandParts size 0
    ((line.divide (tabs.map (· + 1))).filter fun part => !part.chars.isEmpty))

end Styled

end ClipCadence.Console

import ClipCadence.Console.Styled

/-!
Wrapping of printed text. A text is split at its line feeds and each line is laid out on its own:
words are put on a line as long as they fit, a word that is wider than a whole line is chopped,
and blanks that reach beyond the width are dropped.
-/

namespace ClipCadence.Console

open Text

/-- The words of a line, each with the blanks after it; the first also has those before it. -/
def wordsOf : (fuel : Nat) → List Char → List (List Char)
  | 0, _ => []
  | fuel + 1, line =>
    let (before, rest) := line.span isBlank
    let (word, rest) := rest.span (!isBlank ·)
    let (after, rest) := rest.span isBlank
    if word.isEmpty then [] else (before ++ word ++ after) :: wordsOf fuel rest

def words (line : Line) : List (List Char) := wordsOf line.length line

/-- The breaks before the pieces of a chopped word that starts after `start` characters. -/
def pieceBreaks (start : Nat) : List (List Char) → List Nat
  | [] => []
  | piece :: rest =>
    (if start = 0 then [] else [start]) ++ pieceBreaks (start + piece.length) rest

/-- The numbers of characters after which a line is broken, given how many characters come before
the next word and how many cells of the current line are taken. -/
def breaks (width : Nat) : (start used : Nat) → List (List Char) → List Nat
  | _, _, [] => []
  | start, used, word :: rest =>
    let next := start + word.length
    let size := cells (trimEnd word)
    if used + size ≤ width then breaks width next (used + cells word) rest
    else if width < size then
      let pieces := chop width word
      pieceBreaks start pieces ++ breaks width next (cells (pieces.getLastD [])) rest
    else if used ≠ 0 ∧ start ≠ 0 then start :: breaks width next (cells word) rest
    else breaks width next used rest

inductive Alignment where
  | left
  | center
  | right
  deriving DecidableEq, Repr

/-- A line of a column of some width. -/
def align (alignment : Alignment) (width : Nat) (line : Styled) : Styled :=
  match alignment with
  | .left =>
    let line := line.truncate width
    line.padRight (width - line.cells)
  | .center =>
    let line := line.trimEnd.truncate width
    let line := line.padLeft ((width - line.cells) / 2)
    line.padRight (width - line.cells)
  | .right =>
    let line := line.trimEnd.truncate width
    line.padLeft (width - line.cells)

def wrapLine (alignment : Option Alignment) (width : Nat) (line : Styled) : List Styled :=
  let line := line.expandTabs 8
  (line.divide (breaks width 0 0 (words line.chars))).map fun part =>
    let part := part.dropExcess width
    (alignment.elim part fun alignment => align alignment width part).truncate width

/-- The lines of a text, in a column if an alignment is given. -/
def wrapped (alignment : Option Alignment) (width : Nat) (text : Styled) : List Styled :=
  text.lines.flatMap (wrapLine alignment width)

def wrap (alignment : Option Alignment) (width : Nat) (text : Styled) : List Row :=
  (wrapped alignment width text).map Styled.pieces

end ClipCadence.Console

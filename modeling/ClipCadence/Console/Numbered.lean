import ClipCadence.Console.Styled
import ClipCadence.Json.Lexeme
import ClipCadence.Text.LineEnd

/-!
Documents with numbered lines. Each lexeme of a document has a style; its lines are cut or filled up
to the same width.
-/

namespace ClipCadence.Console.Numbered

open Text

/-- A document with tab stops every four characters. -/
def expandTabs (column : Nat) : List Char → List Char
  | [] => []
  | '\t' :: rest =>
    let size := 4 - column % 4
    Row.blanks size ++ expandTabs (column + size) rest
  | c :: rest => c :: expandTabs (if c = '\n' ∨ c = '\r' then 0 else column + 1) rest

def dropByteOrderMark : List Char → List Char
  | '\ufeff' :: rest => rest
  | text => text

/-- A document that ends in a line feed. -/
def terminated (document : List Char) : List Char :=
  if document.getLast? = some '\n' then document else document ++ ['\n']

def styled (document : List Char) : Styled :=
  let text := normalEnds (dropByteOrderMark (expandTabs 0 (terminated document)))
  .join <| (Json.lexemes text).map fun lexeme =>
    let chars := sanitize lexeme
    ⟨chars, [⟨0, chars.length, false⟩]⟩

/-- The lines of a document; an empty one after the last line feed counts only if the document
itself ends in one. -/
def lines (document : List Char) : List Styled :=
  let lines := (styled document).lines
  if document.getLast? = some '\n' then lines else lines.dropLast

def rightAligned (width : Nat) (text : List Char) : List Char :=
  Row.blanks (width - text.length) ++ text

/-- The lines of a document with their numbers, for a width. -/
def rows (width : Nat) (document : List Char) : List Row :=
  let digits := (Nat.toDigits 10 (1 + document.count '\n')).length
  (lines document).zipIdx.map fun (line, index) =>
    [' ', ' '] :: (rightAligned digits (Nat.toDigits 10 (index + 1)) ++ [' ']) ::
      Row.fit (width - (digits + 3)) line.pieces

end ClipCadence.Console.Numbered

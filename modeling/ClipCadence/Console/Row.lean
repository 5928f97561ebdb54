import ClipCadence.Text.Width

/-!
Rows of a console. A row is a list of pieces, the stretches of text that have one style each. Every
piece is measured on its own, so a row covers as many cells as its pieces do together, which may
differ from what its text would cover in one piece.
-/

namespace ClipCadence.Console

open Text

/-- A line of printed text, without the line feed at its end. -/
abbrev Line := List Char

abbrev Row := List (List Char)

namespace Row

def cells : Row → Nat
  | [] => 0
  | piece :: rest => Text.cells piece + cells rest

/-- The pieces that leave room, and what fits of the next one. -/
def cut : (room : Nat) → Row → Row
  | _, [] => []
  | room, piece :: rest =>
    if Text.cells piece < room then piece :: cut (room - Text.cells piece) rest
    else [resize room piece]

/-- A row that is cut if it covers more than `width` cells. -/
def crop (width : Nat) (row : Row) : Row := if width < row.cells then row.cut width else row

def blanks (n : Nat) : List Char := List.replicate n ' '

/-- A row that is cut, or filled up with blanks. -/
def fit (width : Nat) (row : Row) : Row :=
  if row.cells < width then row ++ [blanks (width - row.cells)] else row.crop width

/-- A row between two blanks. -/
def padded (row : Row) : Row := [' '] :: row ++ [[' ']]

/-- The text of a row on a console of some width. -/
def print (width : Nat) (row : Row) : Line := (row.crop width).flatten

theorem crop_of_le {width : Nat} {row : Row} (h : row.cells ≤ width) : row.crop width = row := by
  simp [crop, Nat.not_lt.2 h]

theorem print_of_le {width : Nat} {row : Row} (h : row.cells ≤ width) :
    row.print width = row.flatten := by
  rw [print, crop_of_le h]

end Row

end ClipCadence.Console

import ClipCadence.Console.Wrap

/-!
Panels: content in a rounded box of the full width, with a title in its upper border. The content
has a blank on both sides; a panel that has no room for it has none. The title stands in the middle
of the border, or is cut to it.
-/

namespace ClipCadence.Console.Panel

/-- The width of the content of a panel. -/
def inner (width : Nat) : Nat := width - 4

def rule (n : Nat) : List Char := List.replicate n '─'

/-- A title on one line, with a blank before and after it. -/
def oneLine (title : Styled) : Styled :=
  let line := { title with chars := title.chars.map fun c => if c = '\n' then ' ' else c }
  ((line.expandTabs 8).padLeft 1).padRight 1

/-- A title as far as there is room for it. -/
def shown (width : Nat) (title : Styled) : Styled := (oneLine title).truncate (inner width)

/-- The upper border around a title. -/
def top (width : Nat) (title : Option Styled) : Row :=
  match title with
  | some title =>
    let excess := inner width - title.cells
    let left := excess / 2
    ['╭', '─'] :: rule left :: title.pieces ++ [rule (excess - left), ['─', '╮']]
  | none => ['╭' :: rule (width - 2) ++ ['╮']]

def bottom (width : Nat) : Row := ['╰' :: rule (width - 2) ++ ['╯']]

def side (width : Nat) (row : Row) : Row :=
  ['│'] :: Row.fit (width - 2) (Row.padded (Row.fit (inner width) row)) ++ [['│']]

/-- The lines of a panel around some rows of content. -/
def frame (width : Nat) (title : Option Styled) (content : List Row) : List Line :=
  let sides := if inner width = 0 then [] else content.map (side width)
  (top width title :: sides ++ [bottom width]).map (Row.print width)

end ClipCadence.Console.Panel

import ClipCadence.Console.Wrap

/-!
Tables with a heavy head, a title centred above them, and columns as wide as their widest cell.
-/

namespace ClipCadence.Console

open Text

structure Column where
  header : List Char
  alignment : Alignment

structure Table where
  title : List Char
  columns : List Column
  rows : List (List Styled)

namespace Table

/-- The characters that end a line where the width of a cell is measured. -/
def isLineEnd (c : Char) : Bool :=
  ['\n', '\x1c', '\x1d', '\x1e', '\u0085', '\u2028', '\u2029'].contains c

def cellWidth (cell : Styled) : Nat :=
  ((cell.chars.splitOnP isLineEnd).map cells).foldl max 0

def header (table : Table) : List Styled := table.columns.map fun column => .plain column.header

def widths (table : Table) : List Nat :=
  let rows := table.header :: table.rows
  table.columns.zipIdx.map fun (_, index) =>
    (rows.map fun row => cellWidth (row.getD index .empty)).foldl max 0

/-- A border between two rows. -/
def border (left line divider right : Char) (widths : List Nat) : Line :=
  left :: List.intercalate [divider] (widths.map fun w => List.replicate (w + 2) line) ++ [right]

/-- The rows of a cell, with a blank on both sides. -/
def cellRows (column : Column) (width : Nat) (cell : Styled) : List Row :=
  (wrap (some column.alignment) width cell).map fun row =>
    Row.fit (width + 2) (Row.padded (Row.fit width row))

/-- The lines of a row; a cell with fewer lines than others is filled up with blank lines. -/
def rowLines (bar : Char) (columns : List (Column × Nat)) (row : List Styled) : List Line :=
  let laidOut := columns.zipIdx.map fun ((column, width), index) =>
    (width, cellRows column width (row.getD index .empty))
  let height := (laidOut.map fun cell => cell.2.length).foldl max 1
  (List.range height).map fun line =>
    laidOut.flatMap (fun (width, rows) =>
      bar :: (rows.getD line [Row.blanks (width + 2)]).flatten) ++ [bar]

def lines (table : Table) : List Line :=
  let widths := table.widths
  let columns := table.columns.zip widths
  let total := widths.foldl (fun sum w => sum + w + 3) 1
  (wrap (some .center) total (.plain table.title)).map List.flatten ++
    border '┏' '━' '┳' '┓' widths ::
    rowLines '┃' columns table.header ++
    border '┡' '━' '╇' '┩' widths ::
    table.rows.flatMap (rowLines '│' columns) ++
    [border '└' '─' '┴' '┘' widths]

end Table

end ClipCadence.Console

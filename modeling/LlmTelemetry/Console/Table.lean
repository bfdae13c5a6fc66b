import LlmTelemetry.Unicode.TextWidth
/-!
# Tables

A table is drawn with a solid border and dotted lines between its rows and columns. A cell has a line for
every line of its text, and a column is as wide as its widest line.
-/

namespace LlmTelemetry.Table

/-- A row has a text for every column. -/
abbrev Row := List String

def cellLines (text : String) : List (List Char) :=
  (text.splitOn "\n").map String.toList

/-- The columns of the widest line of a cell. -/
def cellWidth (text : String) : Nat :=
  ((cellLines text).map Unicode.width).foldl max 0

def columnWidths (rows : List Row) : List Nat :=
  rows.foldl (fun widths row => List.zipWith max (row.map cellWidth) widths)
    ((rows.head?.getD []).map cellWidth)

/-- A line of a cell, with a blank on either side. -/
def padded (width : Nat) (line : List Char) : List Char :=
  ' ' :: line ++ List.replicate (width - Unicode.width line + 1) ' '

/-- The characters of a horizontal line. -/
structure Rule where
  left : Char
  fill : Char
  crossing : Char
  right : Char

def topRule : Rule := ⟨'┌', '─', '┬', '┐'⟩

def middleRule : Rule := ⟨'├', '╌', '┼', '┤'⟩

def bottomRule : Rule := ⟨'└', '─', '┴', '┘'⟩

def Rule.draw (rule : Rule) (widths : List Nat) : List Char :=
  let segments := widths.map fun width => List.replicate (width + 2) rule.fill
  rule.left :: (List.intercalate [rule.crossing] segments) ++ [rule.right]

def rowLines (widths : List Nat) (row : Row) : List (List Char) :=
  let cells := row.map cellLines
  let height := (cells.map List.length).foldl max 0
  (List.range height).map fun line =>
    let segments := List.zipWith (fun width cell => padded width (cell[line]?.getD [])) widths cells
    '│' :: (List.intercalate ['┆'] segments) ++ ['│']

def lines (rows : List Row) : List (List Char) :=
  let widths := columnWidths rows
  [topRule.draw widths]
    ++ List.intercalate [middleRule.draw widths] (rows.map (rowLines widths))
    ++ [bottomRule.draw widths]

def text (rows : List Row) : String :=
  String.intercalate "\n" ((lines rows).map String.ofList)

end LlmTelemetry.Table

import GrammarSets.Analysis

/-!
# Reports

Rows are shown in a boxed table or as plain lines. A column of the table is as
wide as its widest cell, the header included; width counts code points. There
is no table if a column is wider than a cell can be formatted (`maxWidth`).
-/
namespace GrammarSets

/-- The two ways to show rows. -/
inductive Format where
  | table
  | plain
deriving DecidableEq

namespace Report

/-- Lookaheads in braces, separated by commas. -/
def setText (members : List Lookahead) : String :=
  let joined := ", ".intercalate (members.map Lookahead.text)
  if joined = "" then "\x7b \x7d" else "\x7b " ++ joined ++ " \x7d"

/-- A column of the table: its header, and its cell in a row. -/
structure Column where
  header : String
  cell : Row → String

def nameColumn : Column := ⟨"Non-Terminal", Row.nonterminal⟩

def firstColumn : Column := ⟨"FIRST Set", fun row => setText row.first.toList⟩

def followColumn : Column := ⟨"FOLLOW Set", fun row => setText row.follow.toList⟩

def columns : List Column := [nameColumn, firstColumn, followColumn]

/-- The width of the widest cell of a column. -/
def Column.width (rows : List Row) (c : Column) : Nat :=
  (rows.map fun r => (c.cell r).length).foldl max c.header.length

/-- A horizontal line with the given corners and junction. -/
def border (widths : List Nat) (left middle right : String) : String :=
  let bars := widths.map fun w => String.ofList (List.replicate (w + 2) '─')
  left ++ middle.intercalate bars ++ right

/-- The largest width that a cell can be formatted with. -/
def maxWidth : Nat := 65535

/-- A cell with a blank on its left and blanks up to the width of its column on its right. A width
above the limit of formatting is refused, however short the text. -/
def pad (text : String) (width : Nat) : Option String :=
  if width ≤ maxWidth then
    some (" " ++ text ++ String.ofList (List.replicate (width - text.length) ' ') ++ " ")
  else none

/-- A line of cells between bars. -/
def line (widths : List Nat) (cells : List String) : Option String := do
  let padded ← (cells.zip widths).mapM fun (cell, width) => pad cell width
  return "│" ++ "│".intercalate padded ++ "│"

/-- The lines of the boxed table. -/
def tableLines (rows : List Row) : Option (List String) := do
  let widths := columns.map (Column.width rows)
  let head ← line widths (columns.map Column.header)
  let body ← rows.mapM fun r => line widths (columns.map fun c => c.cell r)
  return [border widths "┌" "┬" "┐", head, border widths "├" "┼" "┤"] ++ body ++
    [border widths "└" "┴" "┘"]

/-- The boxed table, if its cells can be formatted. -/
def table (rows : List Row) : Option String := (tableLines rows).map "\n".intercalate

/-- The message with which formatting refuses a width. -/
def tooWide : String := "Formatting argument out of range"

/-- The two plain lines of a row. -/
def plainLines (r : Row) : List String :=
  ["FIRST(" ++ r.nonterminal ++ ") = " ++ setText r.first.toList,
    "FOLLOW(" ++ r.nonterminal ++ ") = " ++ setText r.follow.toList]

/-- The plain report. -/
def plain (rows : List Row) : String := "\n".intercalate (rows.flatMap plainLines)

/-- A report in either format. -/
def render : Format → List Row → Option String
  | .table => table
  | .plain => fun rows => some (plain rows)

end Report
end GrammarSets

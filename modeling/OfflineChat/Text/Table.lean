import OfflineChat.Text.Split
import OfflineChat.Text.Width

/-! # Tables

Tables of texts as they are drawn on a terminal.  Each column is as wide as its
widest cell; a cell of several lines makes its row as high.
-/
namespace OfflineChat

/-- How a table is drawn. -/
inductive TableStyle where
  /-- With lines around it. -/
  | framed
  /-- With lines around each cell. -/
  | ruled
deriving DecidableEq, Repr

/-- A table: its rows, each a list of cells. -/
structure TextTable where
  style : TableStyle
  rows : List (List String)

namespace TextTable

/-- The columns a cell takes. -/
def cellWidth (cell : String) : Nat := ((Text.lines cell).map Text.columns).foldl max 0

/-- The widths of two rows together. -/
def widest : List Nat → List Nat → List Nat
  | [], ws => ws
  | vs, [] => vs
  | v :: vs, w :: ws => max v w :: widest vs ws

/-- The width of each column. -/
def widths (t : TextTable) : List Nat :=
  t.rows.foldl (fun ws row => widest ws (row.map cellWidth)) []

/-- So many copies of a character. -/
def fill (n : Nat) (c : Char) : String := String.ofList (List.replicate n c)

/-- A line of a cell, filled up to a width, with a blank on each side. -/
def cellText (width : Nat) (line : String) : String :=
  " " ++ line ++ fill (width - Text.columns line) ' ' ++ " "

/-- A line between rows. -/
def rule (t : TextTable) : String :=
  let joint := match t.style with
    | .framed => ""
    | .ruled => "+"
  "+" ++ String.intercalate joint (t.widths.map fun w => fill (w + 2) '-') ++ "+"

/-- The lines of a row. -/
def rowLines (t : TextTable) (row : List String) : List String :=
  let joint := match t.style with
    | .framed => ""
    | .ruled => "|"
  let cells := row.map Text.lines
  let height := (cells.map List.length).foldl max 1
  (List.range height).map fun i =>
    "|" ++ String.intercalate joint ((cells.zip t.widths).map fun (lines, w) =>
      cellText w ((lines[i]?).getD "")) ++ "|"

/-- The lines of a table, each row after a rule if every cell has one. -/
def lines (t : TextTable) : List String :=
  let rows := t.rows.map t.rowLines
  t.rule :: (match t.style with
    | .framed => rows.flatten
    | .ruled => (rows.intersperse [t.rule]).flatten) ++ [t.rule]

end TextTable
end OfflineChat

/-
# Grids

A table drawn with lines: a title in the middle, a heading in heavy lines, and rows in light ones.
Every column is as wide as its widest cell and a blank on both sides; a cell may have several lines.
-/

import CommandGrammar.Console
import CommandGrammar.Text.Parts
import CommandGrammar.Text.Width

namespace CommandGrammar

open Text

namespace Grid

/-- The characters of a line across the columns. -/
structure Edge where
  left : Char
  line : Char
  cross : Char
  right : Char

def topEdge : Edge := ⟨'┏', '━', '┳', '┓'⟩

def headingEdge : Edge := ⟨'┡', '━', '╇', '┩'⟩

def bottomEdge : Edge := ⟨'└', '─', '┴', '┘'⟩

/-- The columns of a cell. -/
def cellWidth (cell : String) : Nat := ((lines cell).map width).foldl max 0

/-- The widths of columns of which a row has the given cells. -/
def widen : List Nat → List String → List Nat
  | w :: ws, cell :: cells => max w (cellWidth cell) :: widen ws cells
  | ws, _ => ws

/-- The width of every column, without the blanks on its sides. -/
def widths (g : Grid) : List Nat := g.rows.foldl widen (g.heading.map cellWidth)

/-- A line across columns. -/
def Edge.across (e : Edge) (ws : List Nat) : String :=
  let part := fun (w : Nat) => String.ofList (List.replicate (w + 2) e.line)
  e.left.toString ++ joined e.cross.toString (ws.map part) ++ e.right.toString

/-- One line of a row between bars. -/
def barred (bar : Char) (ws : List Nat) (cells : List String) : String :=
  let part := fun (c : Nat × String) => " " ++ padded c.1 (untabbed c.2) ++ " "
  bar.toString ++ joined bar.toString ((ws.zip cells).map part) ++ bar.toString

/-- The lines of a row between bars. -/
def rowLines (bar : Char) (ws : List Nat) (cells : List String) : List String :=
  let columns := cells.map lines
  let height := (columns.map List.length).foldl max 1
  (List.range height).map fun i => barred bar ws (columns.map fun ls => ls.getD i "")

/-- The columns that a grid takes. -/
def totalWidth (ws : List Nat) : Nat := ws.foldl (fun n w => n + w + 3) 1

/-- The lines of a grid. -/
def draw (g : Grid) : List String :=
  let ws := g.widths
  [centred (totalWidth ws) g.title, topEdge.across ws] ++ rowLines '┃' ws g.heading ++
    [headingEdge.across ws] ++ g.rows.flatMap (rowLines '│' ws) ++ [bottomEdge.across ws]

end Grid
end CommandGrammar

import Phrasebook.Text.Split
import Phrasebook.Text.Width

/-! Tables with an outer border.

Columns are as wide as their widest cell and are not separated by lines. A cell
that holds several lines makes its row as high as it needs.
-/

set_option autoImplicit false

namespace Phrasebook.Text

structure Table where
  header : List String
  rows : List (List String)
  deriving DecidableEq, Repr

namespace Table

abbrev Cell := List (List Char)

def cell (content : String) : Cell := split '\n' content.toList

def cellWidth (cell : Cell) : Nat := (cell.map width).foldl max 0

def columnWidths (rows : List (List Cell)) : List Nat :=
  -- The first row says how many columns there are.
  rows.foldl (fun widths row => List.zipWith max widths (row.map cellWidth))
    (match rows with
      | [] => []
      | first :: _ => first.map fun _ => 0)

def pad (columns : Nat) (line : List Char) : List Char :=
  line ++ List.replicate (columns - width line) ' '

/-- One line of a row. A cell that has fewer lines is blank here. -/
def renderLine (widths : List Nat) (row : List Cell) (line : Nat) : List Char :=
  let cells := List.zipWith (fun columns cell =>
    ' ' :: pad columns ((cell : Cell)[line]?.getD []) ++ [' ']) widths row
  '│' :: List.intercalate [' '] cells ++ ['│']

def renderRow (widths : List Nat) (row : List Cell) : List (List Char) :=
  let height := (row.map List.length).foldl max 0
  (List.range height).map (renderLine widths row)

def border (widths : List Nat) (left line right : Char) : List Char :=
  let inner := (widths.map (· + 2)).sum + (widths.length - 1)
  left :: List.replicate inner line ++ [right]

def render (table : Table) : String :=
  let header := table.header.map cell
  let rows := table.rows.map (·.map cell)
  let widths := columnWidths (header :: rows)
  let lines := border widths '┌' '─' '┐' :: renderRow widths header ++
    border widths '╞' '═' '╡' :: rows.flatMap (renderRow widths) ++
    [border widths '└' '─' '┘']
  String.ofList (List.intercalate ['\n'] lines)

end Table

end Phrasebook.Text

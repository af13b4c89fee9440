import QueryTree.Text.Width

/-! # Grids

A grid shows rows of cells between lines of ASCII characters. A column is as wide as its widest line,
and a row is as high as its highest cell. -/

namespace QueryTree.CommandLine

def linesOf : List Char → List (List Char)
  | [] => [[]]
  | c :: rest =>
    match linesOf rest with
    | [] => [[]]
    | line :: lines => if c == '\n' then [] :: line :: lines else (c :: line) :: lines

abbrev Cell := List (List Char)

def Cell.width (cell : Cell) : Nat := cell.foldl (fun width line => max width (Text.width line)) 0

/-- The widths of the columns; every row has a cell in each. -/
def columnWidths (rows : List (List Cell)) : List Nat :=
  match rows with
  | [] => []
  | first :: rest =>
    rest.foldl (fun widths row => List.zipWith max widths (row.map Cell.width)) (first.map Cell.width)

def ruler (widths : List Nat) : String :=
  "+" ++ String.join (widths.map fun width =>
    String.ofList (List.replicate (width + 2) '-') ++ "+")

def padded (width : Nat) (line : List Char) : String :=
  " " ++ String.ofList (line ++ List.replicate (width - Text.width line) ' ') ++ " |"

def rowLines (widths : List Nat) (row : List Cell) : List String :=
  let height := row.foldl (fun height cell => max height cell.length) 0
  (List.range height).map fun i =>
    "|" ++ String.join (List.zipWith (fun width (cell : Cell) => padded width (cell.getD i []))
      widths row)

/-- The grid of a head and rows below it. -/
def grid (head : List String) (rows : List (List String)) : String :=
  let cells := (head :: rows).map fun row => row.map fun text => linesOf text.toList
  let widths := columnWidths cells
  "\n".intercalate ([ruler widths] ++ cells.flatMap fun row => rowLines widths row ++ [ruler widths])

end QueryTree.CommandLine

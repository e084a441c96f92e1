import AccessBaseline.Text.Fields
import AccessBaseline.Text.Lowercase
import AccessBaseline.Text.PrintTable

/-! Tables with rounded borders. A cell may have several lines, and a column is as wide as its
widest one. -/
namespace AccessBaseline.Console

def charWidth (c : Char) : Nat :=
  if c.toNat < 32 || (127 ≤ c.toNat && c.toNat < 160) then 0
  else if Text.inRanges Text.extendingRanges c then 0
  else if Text.inRanges Text.wideRanges c then 2
  else 1

def width (s : String) : Nat := s.toList.foldl (fun n c => n + charWidth c) 0

def cellLines (cell : String) : List String :=
  (Text.fields (· == '\n') cell.toList).map String.ofList

def cellWidth (cell : String) : Nat := ((cellLines cell).map width).foldl max 0

def columnWidths (rows : List (List String)) : List Nat :=
  let columns := (rows.map List.length).foldl max 0
  (List.range columns).map fun i => (rows.map fun row => cellWidth (row.getD i "")).foldl max 0

def spaces (n : Nat) : String := String.ofList (List.replicate n ' ')

def rule (left middle right : String) (widths : List Nat) : String :=
  left ++ middle.intercalate (widths.map fun w => String.ofList (List.replicate (w + 2) '─')) ++ right

def textLine (widths : List Nat) (cells : List String) : String :=
  "│" ++ "│".intercalate
    (widths.zipIdx.map fun (w, i) =>
      let cell := cells.getD i ""
      " " ++ cell ++ spaces (w - width cell + 1)) ++ "│"

def rowLines (widths : List Nat) (row : List String) : List String :=
  let cells := row.map cellLines
  let height := (cells.map List.length).foldl max 1
  (List.range height).map fun i => textLine widths (cells.map (·.getD i ""))

def table (head : List String) (rows : List (List String)) : String :=
  let widths := columnWidths (head :: rows)
  "\n".intercalate <|
    [rule "╭" "┬" "╮" widths] ++ rowLines widths head ++ [rule "├" "┼" "┤" widths] ++
      rows.flatMap (rowLines widths) ++ [rule "╰" "┴" "╯" widths]

end AccessBaseline.Console

import ClusterProbe.Text.Blank

/-!
# Tables

Columns as wide as their longest cell in characters, two spaces apart. Cells beyond the headers are
not shown, and no line ends in white space.
-/
namespace ClusterProbe.Table

/-- The widest of a header and the cells below it. -/
def columnWidth (header : String) (cells : List String) : Nat :=
  cells.foldl (fun w c => max w c.length) header.length

def widths (headers : List String) (rows : List (List String)) : List Nat :=
  headers.zipIdx.map fun (h, i) => columnWidth h (rows.filterMap (·[i]?))

def padCell (cell : String) (width : Nat) : List Char :=
  cell.toList.rightpad width ' '

def line (widths : List Nat) (cells : List String) : List Char :=
  Text.trimEnd ([' ', ' '].intercalate ((cells.zip widths).map fun (c, w) => padCell c w))

def format (headers : List String) (rows : List (List String)) : String :=
  let ws := widths headers rows
  String.ofList ((headers :: rows).flatMap fun cells => line ws cells ++ ['\n'])

end ClusterProbe.Table

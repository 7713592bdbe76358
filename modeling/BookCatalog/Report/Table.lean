import BookCatalog.Report.Markup

/-!
# Tables in plain text

`Printed.text` sets what is printed in lines of plain text. The columns of a table are as wide as
their widest cells, with two blanks between them.
-/

namespace BookCatalog

/-- A text filled with blanks to a width. -/
def filled (width : Nat) (s : String) : String :=
  s ++ String.ofList (List.replicate (width - s.length) ' ')

/-- The widths of the columns of a table. -/
def columnWidths (rows : List (List String)) : List Nat :=
  rows.foldl (fun widths row =>
    (List.range (max widths.length row.length)).map fun i =>
      max (widths.getD i 0) ((row[i]?.map String.length).getD 0)) []

/-- One row of a table. -/
def rowText (widths : List Nat) (row : List String) : String :=
  String.intercalate "  " ((widths.zip row).map fun (width, cell) => filled width cell)

/-- What is printed, in plain text. -/
def Printed.text : Printed → String
  | .line m => m.plain
  | .table headings rows =>
    let rows := headings :: rows.map fun row => row.map Markup.plain
    String.intercalate "\n" (rows.map (rowText (columnWidths rows)))

end BookCatalog

import Railroad.Text.Console

namespace Railroad

namespace Table

def pad (width : Nat) (s : String) : String :=
  s ++ String.ofList (List.replicate (width - cells s) ' ')

def stroke (left fill divider right : Char) (widths : List Nat) : String :=
  left.toString ++
    divider.toString.intercalate (widths.map fun w => String.ofList (List.replicate w fill)) ++
    right.toString

def textLine (bar : Char) (widths : List Nat) (texts : List String) : String :=
  bar.toString ++
    bar.toString.intercalate
      ((widths.zip texts).map fun (w, s) => " " ++ pad (w - 2) s ++ " ") ++
    bar.toString

def rowLines (bar : Char) (widths : List Nat) (row : List String) : List String :=
  let cells := (widths.zip row).map fun (w, cell) => wrappedLines .cut (w - 2) cell
  let height := (cells.map List.length).foldl max 1
  (List.range height).map fun i => textLine bar widths (cells.map fun lines => lines[i]?.getD "")

def roundedQuotient (n d : Nat) : Nat :=
  let q := n / d
  if d < 2 * (n % d) || d = 2 * (n % d) && q % 2 = 1 then q + 1 else q

/-- Takes `excess` away from the widths of the `count` columns that are `widest`, but at most `most`
from each. -/
def takeAway (widest most excess count : Nat) : List Nat → List Nat
  | [] => []
  | w :: ws =>
    if w = widest ∧ count ≠ 0 then
      let share := min most (roundedQuotient excess count)
      (w - share) :: takeAway widest most (excess - share) (count - 1) ws
    else w :: takeAway widest most excess count ws

/-- Makes the widest columns narrower until all of them fit, each time by no more than the distance
to the next widest. -/
def collapse (limit : Nat) : (steps : Nat) → List Nat → List Nat
  | 0, widths => widths
  | steps + 1, widths =>
    let excess := widths.foldr (· + ·) 0 - limit
    if excess = 0 then widths
    else
      let widest := widths.foldl max 0
      let next := (widths.filter (· ≠ widest)).foldl max 0
      collapse limit steps
        (takeAway widest (min excess (widest - next)) excess (widths.count widest) widths)

/-- A column is as wide as its widest cell or its header, with one space on each side, unless the
table would be wider than the terminal. -/
def columnWidths [Terminal] (rows : List (List String)) (columns : Nat) : List Nat :=
  let limit := Terminal.width - (columns + 1)
  let widths := (List.range columns).map fun i =>
    min limit ((rows.map fun row => markupWidth (row[i]?.getD "")).foldl max 0 + 2)
  collapse limit (widths.foldr (· + ·) 0) widths

end Table

def tableLines [Terminal] (headers : List String) (rows : List (List String)) : List String :=
  let widths := Table.columnWidths (headers :: rows) headers.length
  [Table.stroke '┏' '━' '┳' '┓' widths]
    ++ Table.rowLines '┃' widths headers
    ++ [Table.stroke '┡' '━' '╇' '┩' widths]
    ++ rows.flatMap (Table.rowLines '│' widths)
    ++ [Table.stroke '└' '─' '┴' '┘' widths]

end Railroad

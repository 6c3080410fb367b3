import CheckRouter.Console.Markup
import CheckRouter.Console.Wrap
import CheckRouter.Number.Binary64

/-!
# Tables

A table has columns under headings and fills the width of a console. A column is as wide as its
widest line, with one cell of space on both sides, if there is room for all columns; if not, the
widest columns are narrowed first. Space that is left is shared out in proportion to the widths.
-/

namespace CheckRouter.Console.Table

/-- A column with the texts of its cells from top to bottom, the heading first. -/
structure Column where
  cells : List (List Char)
  overflow : Overflow

def textWidth (text : List Char) : Nat :=
  (Text.linesFrom [] text).foldl (fun widest line => max widest (Text.width line)) 0

/-- The width that a cell asks for, with the space around it, when `limit` is the most it can
get. -/
def cellWidth (limit : Nat) (text : List Char) : Nat :=
  if limit < 3 then limit else min limit (min limit (textWidth text) + 2)

def columnWidth (limit : Nat) (column : Column) : Nat :=
  column.cells.foldl (fun widest cell => max widest (cellWidth limit cell)) 0

def sum (numbers : List Nat) : Nat := numbers.foldl (· + ·) 0

/-- Takes `total` away from some values in turn, in proportion to `ratios` and at most `most` from
each. -/
def reduceFrom (total ratioSum : Nat) : List (Nat × Nat × Nat) → List Nat
  | [] => []
  | (ratio, most, value) :: rest =>
    if 0 < ratio && 0 < ratioSum then
      let share := min most (Binary64.divideToEven (ratio * total) ratioSum)
      (value - share) :: reduceFrom (total - share) (ratioSum - ratio) rest
    else value :: reduceFrom total ratioSum rest

/-- Takes `total` away from some values; each item is a ratio, the most to take, and the value. -/
def reduce (total : Nat) (items : List (Nat × Nat × Nat)) : List Nat :=
  let items := items.map fun (ratio, most, value) => (if most = 0 then 0 else ratio, most, value)
  let ratioSum := sum (items.map (·.1))
  if ratioSum = 0 then items.map (·.2.2) else reduceFrom total ratioSum items

/-- Shares `total` out in turn in proportion to some ratios, each share rounded up. -/
def distributeFrom (total ratioSum : Nat) : List Nat → List Nat
  | [] => []
  | ratio :: rest =>
    let share := if ratioSum = 0 then total else (ratio * total + ratioSum - 1) / ratioSum
    share :: distributeFrom (total - share) (ratioSum - ratio) rest

def distribute (total : Nat) (ratios : List Nat) : List Nat :=
  distributeFrom total (sum ratios) ratios

/-- Narrows the widest columns, down to the next narrower ones at each of at most `fuel` steps,
until the widths have the sum `limit`. -/
def collapse (limit : Nat) : Nat → List Nat → List Nat
  | 0, widths => widths
  | fuel + 1, widths =>
    let excess := sum widths - limit
    let widest := widths.foldl max 0
    let second := (widths.filter (· != widest)).foldl max 0
    if excess = 0 || widest = second then widths
    else
      let most := min excess (widest - second)
      collapse limit fuel
        (reduce excess (widths.map fun width => (if width = widest then 1 else 0, most, width)))

/-- Whether a table of three columns can show any text: four cells go to its borders and two to the
space around a text. -/
def hasRoom (consoleWidth : Nat) : Bool := 6 < consoleWidth

/-- The widths of the columns in a table of `limit` cells, borders aside. -/
def widths (limit : Nat) (columns : List Column) : List Nat :=
  let wanted := columns.map fun column => max 1 (columnWidth limit column)
  let (total, widths) :=
    if sum wanted ≤ limit then (sum wanted, wanted)
    else
      let narrowed := collapse limit (sum wanted + 1) wanted
      let narrowed :=
        if sum narrowed ≤ limit then narrowed
        else reduce (sum narrowed - limit) (narrowed.map fun width => (1, width, width))
      (sum narrowed, (narrowed.zip columns).map fun (width, column) => columnWidth width column)
  if total < limit then
    (widths.zip (distribute (limit - total) widths)).map fun (width, more) => width + more
  else widths

def cellLines (overflow : Overflow) (width : Nat) (text : List Char) : List (List Char) :=
  if width < 3 then []
  else
    (wrap overflow (width - 2) text).map fun line => ' ' :: fit (width - 2) line ++ [' ']

/-- The lines of the cells of one row beside each other; missing lines are blank and stand below the
others, or above them in a heading. -/
def rowLines (heading : Bool) (cells : List (Nat × List (List Char))) : List (List Char) :=
  let height := cells.foldl (fun height cell => max height cell.2.length) 1
  let filled := cells.map fun (width, lines) =>
    let missing := List.replicate (height - lines.length) (List.replicate width ' ')
    if heading then missing ++ lines else lines ++ missing
  (List.range height).map fun n =>
    ' ' :: (filled.flatMap fun lines => lines.getD n [] ++ [' '])

def lines (consoleWidth : Nat) (columns : List Column) : List String :=
  let widths := widths (consoleWidth - 4) columns
  let rows := (columns.map (·.cells.length)).foldl max 0
  let row (n : Nat) := rowLines (n = 0) <| (widths.zip columns).map fun (width, column) =>
    (width, cellLines column.overflow width (column.cells.getD n []))
  let blank := List.replicate (sum widths + 4) ' '
  let rule := ' ' :: List.replicate (sum widths + 2) '─' ++ [' ']
  let shown := [blank] ++ row 0 ++ [rule] ++
    (List.range (rows - 1)).flatMap (fun n => row (n + 1)) ++ [blank]
  shown.map fun line =>
    .ofList (if Text.width line ≤ consoleWidth then line else fit consoleWidth line)

end CheckRouter.Console.Table

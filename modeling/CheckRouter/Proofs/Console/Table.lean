import CheckRouter.Console.Table
import CheckRouter.Proofs.Console.Wrap
import Mathlib.Data.List.Forall2

/-!
# Tables that fit

In a table that has room for all its cells each row takes one line, with its cells beside each
other and nothing but spaces between them.
-/

namespace CheckRouter.Console.Table

/-- A table has room for its columns: no cell is wider than its column, and the lines are no wider
than the console. -/
structure Roomy (consoleWidth : Nat) (columns : List Column) : Prop where
  cells : List.Forall₂ (fun width (column : Column) =>
      3 ≤ width ∧ ∀ cell ∈ column.cells, Holds (width - 2) cell)
    (widths (consoleWidth - 4) columns) columns
  borders : sum (widths (consoleWidth - 4) columns) + 4 ≤ consoleWidth

/-- A text with a space before it, and with spaces behind it up to a width. -/
def padded (width : Nat) (text : List Char) : List Char :=
  ' ' :: (text ++ List.replicate (width - 2 - Text.width text) ' ') ++ [' ']

/-- The line of a row; each item is a cell with the width of its column. -/
def rowText (cells : List (Nat × List Char)) : List Char :=
  ' ' :: cells.flatMap fun cell => padded cell.1 cell.2 ++ [' ']

theorem cellLines_of_holds {width : Nat} {text : List Char} (overflow : Overflow)
    (room : 3 ≤ width) (plain : Plain text) (holds : Holds (width - 2) text) :
    cellLines overflow width text = [padded width text] := by
  rw [cellLines, if_neg (by omega), wrap_of_holds overflow plain holds, List.map_singleton,
    fit_of_le (by omega) holds.fits]
  rfl

theorem width_padded {width : Nat} {text : List Char} (room : 3 ≤ width)
    (holds : Holds (width - 2) text) : Text.width (padded width text) = width := by
  have fits := holds.fits
  simp only [padded, List.cons_append, Text.width_cons, Text.width_append, Text.width_nil,
    Text.width_replicate, Text.cellWidth_space]
  omega

theorem rowLines_of_single (heading : Bool) (cells : List (Nat × List Char)) :
    rowLines heading (cells.map fun cell => (cell.1, [padded cell.1 cell.2])) =
      [rowText cells] := by
  have height : (cells.map fun cell => (cell.1, [padded cell.1 cell.2])).foldl
      (fun height cell => max height cell.2.length) 1 = 1 := by
    induction cells with
    | nil => rfl
    | cons cell rest ih => simpa using ih
  unfold rowLines
  dsimp only
  rw [height]
  simp [rowText, List.flatMap_map]

theorem sum_cons (number : Nat) (numbers : List Nat) :
    sum (number :: numbers) = number + sum numbers := by
  have shift (start : Nat) : numbers.foldl (· + ·) start = start + numbers.foldl (· + ·) 0 := by
    induction numbers generalizing start with
    | nil => rfl
    | cons other rest ih =>
      rw [List.foldl_cons, List.foldl_cons, ih, ih (0 + other)]
      omega
  rw [sum, List.foldl_cons, shift, Nat.zero_add]
  rfl

theorem width_rowText {cells : List (Nat × List Char)}
    (holds : ∀ cell ∈ cells, 3 ≤ cell.1 ∧ Holds (cell.1 - 2) cell.2) :
    Text.width (rowText cells) = sum (cells.map Prod.fst) + cells.length + 1 := by
  rw [rowText, Text.width_cons, Text.cellWidth_space]
  induction cells with
  | nil => rfl
  | cons cell rest ih =>
    obtain ⟨⟨room, fits⟩, holds⟩ := List.forall_mem_cons.mp holds
    have later := ih holds
    rw [List.flatMap_cons, Text.width_append, Text.width_append, width_padded room fits,
      List.map_cons, sum_cons, List.length_cons, Text.width_cons, Text.cellWidth_space,
      Text.width_nil]
    omega

/-! ## Widths -/

section Widths

variable {limit consoleWidth : Nat} {text : List Char} {columns : List Column} {bounds : List Nat}

theorem foldl_max_le_iff {α : Type} (size : α → Nat) (items : List α) (start bound : Nat) :
    items.foldl (fun widest item => max widest (size item)) start ≤ bound ↔
      start ≤ bound ∧ ∀ item ∈ items, size item ≤ bound := by
  induction items generalizing start with
  | nil => simp
  | cons item rest ih => rw [List.foldl_cons, ih, Nat.max_le, List.forall_mem_cons, and_assoc]

theorem sum_le_sum {small large : List Nat} (each : List.Forall₂ (· ≤ ·) small large) :
    sum small ≤ sum large := by
  induction each with
  | nil => exact Nat.le_refl _
  | cons here _ ih =>
    rw [sum_cons, sum_cons]
    exact Nat.add_le_add here ih

theorem le_sum_of_mem {number : Nat} {numbers : List Nat} (member : number ∈ numbers) :
    number ≤ sum numbers := by
  induction numbers with
  | nil => cases member
  | cons first rest ih =>
    rw [sum_cons]
    rcases List.mem_cons.mp member with rfl | member
    · exact Nat.le_add_right _ _
    · exact Nat.le_trans (ih member) (Nat.le_add_left _ _)

theorem length_distributeFrom (total ratioSum : Nat) (ratios : List Nat) :
    (distributeFrom total ratioSum ratios).length = ratios.length := by
  induction ratios generalizing total ratioSum with
  | nil => rfl
  | cons ratio rest ih => simp [distributeFrom, ih]

theorem sum_distributeFrom_le {ratioSum : Nat} {ratios : List Nat} (total : Nat)
    (ratioed : sum ratios ≤ ratioSum) : sum (distributeFrom total ratioSum ratios) ≤ total := by
  induction ratios generalizing total ratioSum with
  | nil => exact Nat.zero_le _
  | cons ratio rest ih =>
    rw [sum_cons] at ratioed
    have share : (if ratioSum = 0 then total
        else (ratio * total + ratioSum - 1) / ratioSum) ≤ total := by
      split
      · exact Nat.le_refl _
      · have part : ratio * total ≤ ratioSum * total := Nat.mul_le_mul_right total (by omega)
        refine Nat.lt_succ_iff.mp (Nat.div_lt_of_lt_mul ?_)
        rw [Nat.mul_succ]
        omega
    rw [distributeFrom, sum_cons]
    generalize (if ratioSum = 0 then total else (ratio * total + ratioSum - 1) / ratioSum) = part
      at share ⊢
    have later := @ih (ratioSum - ratio) (total - part) (by omega)
    omega

theorem sum_zip_add_le (small more : List Nat) :
    sum ((small.zip more).map fun (number, other) => number + other) ≤ sum small + sum more := by
  induction small generalizing more with
  | nil => exact Nat.zero_le _
  | cons number rest ih =>
    cases more with
    | nil => exact Nat.zero_le _
    | cons other more =>
      have later := ih more
      rw [List.zip_cons_cons, List.map_cons, sum_cons, sum_cons, sum_cons]
      dsimp only at later ⊢
      omega

theorem forall₂_le_zip_add {small more : List Nat} (same : small.length = more.length) :
    List.Forall₂ (· ≤ ·) small ((small.zip more).map fun (number, other) => number + other) := by
  induction small generalizing more with
  | nil => exact .nil
  | cons number rest ih =>
    cases more with
    | nil => cases same
    | cons other more => exact .cons (Nat.le_add_right _ _) (ih (Nat.succ.inj same))

/-- Columns that have room for what they want get it and more, up to the limit. -/
theorem widths_of_sum_le
    (room : sum (columns.map fun column => max 1 (columnWidth limit column)) ≤ limit) :
    List.Forall₂ (· ≤ ·) (columns.map fun column => max 1 (columnWidth limit column))
        (widths limit columns) ∧ sum (widths limit columns) ≤ limit := by
  unfold widths
  dsimp only
  rw [if_pos room]
  dsimp only
  generalize columns.map (fun column => max 1 (columnWidth limit column)) = wanted at room ⊢
  split
  · constructor
    · exact forall₂_le_zip_add (length_distributeFrom _ _ _).symm
    · have shared := sum_distributeFrom_le (limit - sum wanted) (Nat.le_refl (sum wanted))
      refine Nat.le_trans (sum_zip_add_le _ _) ?_
      rw [distribute]
      omega
  · exact ⟨List.forall₂_same.mpr fun width _ => Nat.le_refl width, room⟩

theorem textWidth_of_solid (solid : Solid text) : textWidth text = Text.width text := by
  have single := Text.linesFrom_append solid.unbroken [] []
  simp only [List.append_nil, Text.linesFrom, List.isEmpty_reverse, List.reverse_reverse] at single
  rw [textWidth, single]
  cases text with
  | nil => rfl
  | cons c rest => simp

theorem cellWidth_of_solid (solid : Solid text) (room : Text.width text + 2 ≤ limit) :
    cellWidth limit text = Text.width text + 2 := by
  rw [cellWidth, textWidth_of_solid solid]
  split <;> omega

/-- The width of the widest cell. -/
def breadth (column : Column) : Nat :=
  column.cells.foldl (fun widest cell => max widest (Text.width cell)) 0

theorem width_le_breadth {column : Column} {cell : List Char} (member : cell ∈ column.cells) :
    Text.width cell ≤ breadth column :=
  ((foldl_max_le_iff Text.width column.cells 0 _).mp (Nat.le_refl _)).2 cell member

theorem cellWidth_le_columnWidth {column : Column} {cell : List Char}
    (member : cell ∈ column.cells) : cellWidth limit cell ≤ columnWidth limit column :=
  ((foldl_max_le_iff (cellWidth limit) column.cells 0 _).mp (Nat.le_refl _)).2 cell member

section Solid

variable (solid : ∀ column ∈ columns, ∀ cell ∈ column.cells, Solid cell)
  (room : sum (columns.map (breadth · + 2)) ≤ limit)

include solid room

theorem cellWidth_of_room {column : Column} (among : column ∈ columns) {cell : List Char}
    (member : cell ∈ column.cells) : cellWidth limit cell = Text.width cell + 2 := by
  have share : breadth column + 2 ≤ sum (columns.map (breadth · + 2)) :=
    le_sum_of_mem (List.mem_map_of_mem among)
  have less := width_le_breadth member
  exact cellWidth_of_solid (solid column among cell member) (by omega)

theorem sum_wanted_le :
    sum (columns.map fun column => max 1 (columnWidth limit column)) ≤ limit := by
  refine Nat.le_trans (sum_le_sum ?_) room
  rw [List.forall₂_map_left_iff, List.forall₂_map_right_iff]
  refine List.forall₂_same.mpr fun column among => Nat.max_le.mpr ⟨by omega, ?_⟩
  refine (foldl_max_le_iff _ _ _ _).mpr ⟨Nat.zero_le _, fun cell member => ?_⟩
  rw [cellWidth_of_room solid room among member]
  exact Nat.add_le_add_right (width_le_breadth member) 2

end Solid

/-- A console has room for a table if it has room for the widest cell of each column, each with the
space around it. -/
theorem roomy_of_breadth (solid : ∀ column ∈ columns, ∀ cell ∈ column.cells, Solid cell)
    (headed : ∀ column ∈ columns, ∃ cell ∈ column.cells, 0 < Text.width cell)
    (room : sum (columns.map (breadth · + 2)) + 4 ≤ consoleWidth) : Roomy consoleWidth columns := by
  have inner : sum (columns.map (breadth · + 2)) ≤ consoleWidth - 4 := Nat.le_sub_of_add_le room
  obtain ⟨each, borders⟩ := widths_of_sum_le (sum_wanted_le solid inner)
  refine ⟨List.Forall₂.flip ?_, by omega⟩
  rw [List.forall₂_map_left_iff] at each
  refine ((List.forall₂_and_left _ _).mpr ⟨fun _ => id, each⟩).imp fun column width given => ?_
  obtain ⟨among, given⟩ := given
  have enough : ∀ cell ∈ column.cells, Text.width cell + 2 ≤ width := by
    intro cell member
    rw [← cellWidth_of_room solid inner among member]
    apply Nat.le_trans (cellWidth_le_columnWidth member)
    exact Nat.le_trans (Nat.le_max_right 1 _) given
  obtain ⟨heading, top, shown⟩ := headed column among
  have least := enough heading top
  refine ⟨by omega, fun cell member => (solid column among cell member).holds ?_⟩
  exact Nat.le_sub_of_add_le (enough cell member)

end Widths

section Lines

variable {consoleWidth rows n : Nat} {columns : List Column}

/-- The texts of a row with the widths of their columns. -/
def rowCells (consoleWidth : Nat) (columns : List Column) (n : Nat) : List (Nat × List Char) :=
  ((widths (consoleWidth - 4) columns).zip columns).map fun (width, column) =>
    (width, column.cells.getD n [])

theorem fst_rowCells (roomy : Roomy consoleWidth columns) :
    (rowCells consoleWidth columns n).map Prod.fst = widths (consoleWidth - 4) columns := by
  rw [rowCells, List.map_map]
  exact List.map_fst_zip (Nat.le_of_eq roomy.cells.length_eq)

theorem getD_mem {column : Column} (filled : column.cells.length = rows + 1) (inside : n ≤ rows) :
    column.cells.getD n [] ∈ column.cells := by
  have present : n < column.cells.length := by omega
  rw [← List.getElem_eq_getD (h := present) []]
  exact List.getElem_mem present

theorem holds_of_mem_rowCells (roomy : Roomy consoleWidth columns)
    (filled : ∀ column ∈ columns, column.cells.length = rows + 1) (inside : n ≤ rows)
    {cell : Nat × List Char} (member : cell ∈ rowCells consoleWidth columns n) :
    3 ≤ cell.1 ∧ Holds (cell.1 - 2) cell.2 := by
  obtain ⟨⟨width, column⟩, among, rfl⟩ := List.mem_map.mp member
  obtain ⟨room, holds⟩ := List.forall₂_zip roomy.cells among
  exact ⟨room, holds _ (getD_mem (filled column (List.of_mem_zip among).2) inside)⟩

theorem row_of_roomy (roomy : Roomy consoleWidth columns)
    (plain : ∀ column ∈ columns, ∀ cell ∈ column.cells, Plain cell)
    (filled : ∀ column ∈ columns, column.cells.length = rows + 1) (inside : n ≤ rows)
    (heading : Bool) :
    rowLines heading (((widths (consoleWidth - 4) columns).zip columns).map fun (width, column) =>
        (width, cellLines column.overflow width (column.cells.getD n []))) =
      [rowText (rowCells consoleWidth columns n)] := by
  rw [← rowLines_of_single heading, rowCells, List.map_map]
  congr 1
  refine List.map_congr_left fun entry member => ?_
  obtain ⟨width, column⟩ := entry
  obtain ⟨room, holds⟩ := List.forall₂_zip roomy.cells member
  have among := (List.of_mem_zip member).2
  have present := getD_mem (filled column among) inside
  dsimp only [Function.comp_apply]
  rw [cellLines_of_holds column.overflow room (plain column among _ present) (holds _ present)]

theorem width_row (roomy : Roomy consoleWidth columns) (three : columns.length = 3)
    (filled : ∀ column ∈ columns, column.cells.length = rows + 1) (inside : n ≤ rows) :
    Text.width (rowText (rowCells consoleWidth columns n)) =
      sum (widths (consoleWidth - 4) columns) + 4 := by
  have length := congrArg List.length (fst_rowCells (n := n) roomy)
  rw [List.length_map, roomy.cells.length_eq, three] at length
  rw [width_rowText fun cell => holds_of_mem_rowCells roomy filled inside, fst_rowCells roomy,
    length]

/-- The lines of a table of three columns. -/
theorem lines_of_roomy (roomy : Roomy consoleWidth columns) (three : columns.length = 3)
    (plain : ∀ column ∈ columns, ∀ cell ∈ column.cells, Plain cell)
    (filled : ∀ column ∈ columns, column.cells.length = rows + 1) :
    ∃ blank rule, lines consoleWidth columns =
      ([blank, rowText (rowCells consoleWidth columns 0), rule] ++
        (List.range rows).map (fun n => rowText (rowCells consoleWidth columns (n + 1))) ++
          [blank]).map String.ofList := by
  let total := sum (widths (consoleWidth - 4) columns)
  let blank := List.replicate (total + 4) ' '
  let rule := ' ' :: List.replicate (total + 2) '─' ++ [' ']
  have deep : (columns.map (·.cells.length)).foldl max 0 = rows + 1 := by
    obtain ⟨a, b, c, rfl⟩ := List.length_eq_three.mp three
    simp [filled]
  refine ⟨blank, rule, ?_⟩
  have body : (List.range (rows + 1 - 1)).flatMap (fun n => rowLines (decide (n + 1 = 0))
      (((widths (consoleWidth - 4) columns).zip columns).map fun (width, column) =>
        (width, cellLines column.overflow width (column.cells.getD (n + 1) [])))) =
      (List.range rows).map fun n => rowText (rowCells consoleWidth columns (n + 1)) := by
    rw [Nat.add_sub_cancel, ← List.flatMap_pure_eq_map]
    refine List.flatMap_congr fun n inside => ?_
    exact row_of_roomy roomy plain filled (List.mem_range.mp inside) _
  unfold lines
  dsimp only
  rw [deep, body, row_of_roomy roomy plain filled (Nat.zero_le rows)]
  refine List.map_congr_left fun line member => ?_
  have borders : total + 4 ≤ consoleWidth := roomy.borders
  have narrow : Text.width line = total + 4 := by
    have blanks : Text.width blank = total + 4 := by
      rw [Text.width_replicate, Text.cellWidth_space, Nat.mul_one]
    have dash : Text.cellWidth '─' = 1 := by decide +kernel
    simp only [List.mem_append, List.mem_singleton, List.mem_map, List.mem_range] at member
    rcases member with (((rfl | rfl) | rfl) | ⟨n, inside, rfl⟩) | rfl
    · exact blanks
    · exact width_row roomy three filled (Nat.zero_le rows)
    · simp only [List.cons_append, Text.width_cons, Text.width_append, Text.width_replicate,
        Text.cellWidth_space, dash, Text.width_nil]
      omega
    · exact width_row roomy three filled inside
    · exact blanks
  rw [if_pos (narrow ▸ borders)]

end Lines

end CheckRouter.Console.Table

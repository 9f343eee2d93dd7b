import GameOfLife.Cell

/-!
Boards: rectangular, never empty, stored row by row in one array. `Grid.ofRows` accepts exactly the
lists of rows that are such a rectangle and names the first fault of every other list; `Grid.ofFn`
computes every cell from its coordinates. A grid is seen through `Grid.get?` and `Grid.rows`.
-/

set_option autoImplicit false
set_option relaxedAutoImplicit false

namespace GameOfLife

inductive ShapeError where
  | empty
  | ragged (row expected found : Nat)
  deriving DecidableEq

def ShapeError.message : ShapeError → String
  | empty => "the grid has no cells"
  | ragged row expected found =>
    let number := row + 1
    s!"row {number} has {found} cells but the first row has {expected}"

/-- A rectangle of cells with at least one row and one column, stored row by row. -/
structure Grid where
  width : Nat
  height : Nat
  cells : Array Cell
  width_pos : 0 < width
  height_pos : 0 < height
  size_cells : cells.size = height * width
  deriving DecidableEq

namespace Grid

def index (g : Grid) (row col : Nat) : Nat :=
  row * g.width + col

def get? (g : Grid) (row col : Nat) : Option Cell :=
  if row < g.height ∧ col < g.width then g.cells[g.index row col]? else none

def row (g : Grid) (i : Nat) : List Cell :=
  (g.cells.extract (g.index i 0) (g.index (i + 1) 0)).toList

def rows (g : Grid) : List (List Cell) :=
  (List.range g.height).map g.row

def population (g : Grid) : Nat :=
  g.cells.countP Cell.isAlive

def coordinates (g : Grid) : List (Nat × Nat) :=
  (List.range g.height).flatMap fun row => (List.range g.width).map fun col => (row, col)

def SameSize (a b : Grid) : Prop :=
  a.width = b.width ∧ a.height = b.height

instance (a b : Grid) : Decidable (a.SameSize b) :=
  inferInstanceAs (Decidable (_ ∧ _))

private theorem length_flatten_of_forall {rows : List (List Cell)} {width : Nat}
    (h : ∀ row ∈ rows, row.length = width) : rows.flatten.length = rows.length * width := by
  induction rows with
  | nil => simp
  | cons row rows ih =>
    simp only [List.mem_cons, forall_eq_or_imp] at h
    simp [ih h.2, h.1, Nat.succ_mul, Nat.add_comm]

private theorem length_pos_of_headD {rows : List (List Cell)}
    (h : 0 < (rows.headD []).length) : 0 < rows.length := by
  cases rows with
  | nil => simp at h
  | cons => simp

/-- The grid with the given rows, top first. The first row sets the width: without a cell in it the
list is empty, and the first row of another length makes the list ragged. -/
def ofRows (rows : List (List Cell)) : Except ShapeError Grid :=
  let width := (rows.headD []).length
  if width_pos : 0 < width then
    if rectangular : ∀ row ∈ rows, row.length = width then
      .ok {
        width
        height := rows.length
        cells := rows.flatten.toArray
        width_pos
        height_pos := length_pos_of_headD width_pos
        size_cells := by simpa using length_flatten_of_forall rectangular }
    else
      let row := rows.findIdx (·.length ≠ width)
      .error (.ragged row width (rows.getD row []).length)
  else
    .error .empty

/-- The grid of the given size whose cell at each coordinate is `cellAt row col`. -/
def ofFn (width height : Nat) (width_pos : 0 < width) (height_pos : 0 < height)
    (cellAt : Nat → Nat → Cell) : Grid where
  width
  height
  cells := Array.ofFn fun i : Fin (height * width) => cellAt (i / width) (i % width)
  width_pos
  height_pos
  size_cells := by simp

end Grid

end GameOfLife

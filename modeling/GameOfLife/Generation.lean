import GameOfLife.Grid.Neighborhood

/-!
Generations: every cell of the next one follows from the cell and its live neighbours in this one,
on a board of the same size.
-/

set_option autoImplicit false
set_option relaxedAutoImplicit false

namespace GameOfLife.Grid

def next (g : Grid) : Grid :=
  ofFn g.width g.height g.width_pos g.height_pos fun row col =>
    ((g.get? row col).getD .dead).step (g.liveNeighbors row col)

def after (g : Grid) : Nat → Grid
  | 0 => g
  | n + 1 => g.next.after n

def successors (g : Grid) : Nat → List Grid
  | 0 => []
  | n + 1 => g.next :: g.next.successors n

@[simp] theorem width_next (g : Grid) : g.next.width = g.width := rfl

@[simp] theorem height_next (g : Grid) : g.next.height = g.height := rfl

@[simp] theorem width_after (g : Grid) (n : Nat) : (g.after n).width = g.width := by
  induction n generalizing g with
  | zero => rfl
  | succ n ih => exact ih g.next

@[simp] theorem height_after (g : Grid) (n : Nat) : (g.after n).height = g.height := by
  induction n generalizing g with
  | zero => rfl
  | succ n ih => exact ih g.next

theorem after_add (g : Grid) (m n : Nat) : g.after (m + n) = (g.after m).after n := by
  induction m generalizing g with
  | zero =>
    rw [Nat.zero_add]
    rfl
  | succ m ih =>
    rw [Nat.succ_add]
    exact ih g.next

@[simp] theorem length_successors (g : Grid) (n : Nat) : (g.successors n).length = n := by
  induction n generalizing g with
  | zero => rfl
  | succ n ih => simp [successors, ih]

theorem getElem?_successors (g : Grid) {n i : Nat} (h : i < n) :
    (g.successors n)[i]? = some (g.after (i + 1)) := by
  induction n generalizing g i with
  | zero => omega
  | succ n ih =>
    cases i with
    | zero => rfl
    | succ i => simpa [successors, after] using ih g.next (by omega : i < n)

end GameOfLife.Grid

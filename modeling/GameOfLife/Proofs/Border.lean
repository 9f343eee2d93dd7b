import GameOfLife.Proofs.SpeedOfLight

/-!
How far the border reaches. A grid in the middle of a larger one, with dead cells around it, evolves like
the grid on its own, except near its border: what the border cuts off is missed one layer further inside
with every generation after the first. Around the grid nothing is alive farther out than there were
generations.
-/

set_option autoImplicit false
set_option relaxedAutoImplicit false

namespace GameOfLife.Grid

open Plane

/-- The grid with dead rows above and below it and dead columns to its left and right. -/
def pad (g : Grid) (top bottom left right : Nat) : Grid :=
  ofFn (left + g.width + right) (top + g.height + bottom)
    (Nat.add_pos_left (Nat.add_pos_right _ g.width_pos) _)
    (Nat.add_pos_left (Nat.add_pos_right _ g.height_pos) _) fun row col =>
      if top ≤ row ∧ left ≤ col then (g.get? (row - top) (col - left)).getD .dead else .dead

/-- How many rows or columns lie between a cell and the border that is nearest to it. -/
def depth (g : Grid) (row col : Nat) : Nat :=
  min (min row (g.height - 1 - row)) (min col (g.width - 1 - col))

section Pad

variable {g : Grid} {top bottom left right : Nat}

theorem width_pad : (g.pad top bottom left right).width = left + g.width + right := rfl

theorem height_pad : (g.pad top bottom left right).height = top + g.height + bottom := rfl

private theorem get?_pad_eq_alive_iff {row col : Nat} :
    (g.pad top bottom left right).get? row col = some .alive ↔
      top ≤ row ∧ left ≤ col ∧ g.get? (row - top) (col - left) = some .alive := by
  have cell : (g.get? (row - top) (col - left)).getD .dead = .alive ↔
      g.get? (row - top) (col - left) = some .alive := by
    cases g.get? (row - top) (col - left) <;> simp
  rw [pad, get?_ofFn]
  split
  · next inside =>
    split
    · next window => simp [window, cell]
    · next outside =>
      simp only [Option.some.injEq, reduceCtorEq, false_iff]
      exact fun window => outside ⟨window.1, window.2.1⟩
  · next outside =>
    simp only [reduceCtorEq, false_iff]
    rintro ⟨below, behind, alive⟩
    -- A cell of the grid lies inside the padded grid as well.
    have place := isSome_get?.1 (by rw [alive]; rfl : (g.get? (row - top) (col - left)).isSome = true)
    omega

theorem mem_livePoints_pad {p : Point} :
    p ∈ g.livePoints ↔ shift (top, left) p ∈ (g.pad top bottom left right).livePoints := by
  constructor
  · intro h
    obtain ⟨row, col, rfl, -⟩ := exists_natCast_of_mem_frame (mem_frame_of_mem_livePoints h)
    have alive := mem_livePoints_natCast.1 h
    rw [shift_natCast, mem_livePoints_natCast, get?_pad_eq_alive_iff]
    simpa using alive
  · intro h
    obtain ⟨row, col, moved, -⟩ := exists_natCast_of_mem_frame (mem_frame_of_mem_livePoints h)
    rw [moved, mem_livePoints_natCast, get?_pad_eq_alive_iff] at h
    obtain ⟨below, behind, alive⟩ := h
    simp only [shift, Prod.mk.injEq] at moved
    have place : p = (((row - top : Nat) : Int), ((col - left : Nat) : Int)) :=
      Prod.ext (by omega) (by omega)
    rw [place, mem_livePoints_natCast]
    exact alive

/-- As long as the border is as many layers away as there were generations before the last, it makes no
difference. -/
theorem get?_after_pad {row col k : Nat} (hrow : row < g.height) (hcol : col < g.width)
    (inside : k ≤ g.depth row col + 1) :
    ((g.pad top bottom left right).after k).get? (top + row) (left + col) =
      (g.after k).get? row col := by
  refine get?_eq_of_alive_iff ?_ ?_ ?_
  · rw [width_after, height_after, width_pad, height_pad]
    omega
  · rw [width_after, height_after]
    exact ⟨hrow, hcol⟩
  · rw [← mem_livePoints_natCast, ← mem_livePoints_natCast, ← shift_natCast]
    refine (mem_livePoints_after_iff ?_ fun q _ => mem_livePoints_pad).symm
    intro q within
    simp only [mem_frame, shift, width_pad, height_pad]
    simp only [depth] at inside
    simp only [distance] at within
    omega

/-- One generation more, and the border shows: three cells in a row die out on their own, but blink if
there is a row above and below them. -/
example :
    let line := ofFn 3 1 (by decide) (by decide) fun _ _ => .alive
    line.depth 0 1 = 0 ∧ (line.after 2).get? 0 1 = some .dead ∧
      ((line.pad 1 1 0 0).after 2).get? 1 1 = some .alive := by
  decide

private theorem eq_dead_of_far {row col k : Nat} {cell : Cell}
    (present : ((g.pad top bottom left right).after k).get? row col = some cell)
    (far : ∀ i j, i < g.height → j < g.width →
      k < distance (row, col) (((top + i : Nat) : Int), ((left + j : Nat) : Int))) : cell = .dead := by
  cases cell with
  | dead => rfl
  | alive =>
    obtain ⟨q, alive, within⟩ :=
      exists_near_of_mem_livePoints_after (mem_livePoints_natCast.2 present)
    obtain ⟨p, rfl⟩ := exists_shift (top, left) q
    have frame := mem_frame_of_mem_livePoints (mem_livePoints_pad.2 alive)
    obtain ⟨i, j, rfl, hi, hj⟩ := exists_natCast_of_mem_frame frame
    have away := far i j hi hj
    simp only [shift, distance] at within away
    omega

end Pad

/-- A grid with dead cells around it, after any number of generations. Where the border is not nearer than
these generations can reach, its cells are those of the grid on its own, after one generation everywhere;
and it is dead wherever the grid is farther away than there were generations. -/
theorem after_pad (g : Grid) (top bottom left right k : Nat) :
    let padded := g.pad top bottom left right
    (∀ row col, row < g.height → col < g.width → k ≤ g.depth row col + 1 →
      (padded.after k).get? (top + row) (left + col) = (g.after k).get? row col) ∧
    (∀ row col, row < g.height → col < g.width →
      padded.next.get? (top + row) (left + col) = g.next.get? row col) ∧
    ∀ row col cell, (padded.after k).get? row col = some cell →
      (∀ i j, i < g.height → j < g.width →
        k < distance (row, col) (((top + i : Nat) : Int), ((left + j : Nat) : Int))) →
      cell = .dead :=
  ⟨fun _ _ hrow hcol inside => get?_after_pad hrow hcol inside,
    fun row col hrow hcol => get?_after_pad hrow hcol (Nat.le_add_left 1 (g.depth row col)),
    fun _ _ _ present far => eq_dead_of_far present far⟩

end GameOfLife.Grid

import GameOfLife.Proofs.Border

/-!
Patterns and the places where they stand. A pattern with room around it, as many dead rows and columns on
each side as there are generations, is out of reach of every border: what becomes of it is the same at all
such places in all grids, so that it may be seen on the smallest one, and the rest of the grid stays dead.
-/

set_option autoImplicit false
set_option relaxedAutoImplicit false

namespace GameOfLife.Grid

open Plane

/-- Nothing that is alive can reach a point outside the grid in the given number of steps. -/
def Room (g : Grid) (n : Nat) : Prop :=
  ∀ p q, q ∈ g.livePoints → distance p q ≤ n → p ∈ g.frame

/-- The pattern `p` stands in a grid that is dead otherwise: its first cell is at the given row and column,
and there are at least `margin` rows and columns on each side of it. -/
structure PlacedIn (p g : Grid) (row col margin : Nat) : Prop where
  rows : margin ≤ row ∧ row + p.height + margin ≤ g.height
  cols : margin ≤ col ∧ col + p.width + margin ≤ g.width
  pattern : ∀ i j, i < p.height → j < p.width → g.get? (row + i) (col + j) = p.get? i j
  elsewhere : ∀ i j, g.get? i j = some .alive →
    (row ≤ i ∧ i < row + p.height) ∧ col ≤ j ∧ j < col + p.width

section Room

variable {a b g : Grid} {offset p : Point} {n : Nat}

private theorem mem_livePoints_next_of_room (room : g.Room (n + 1)) :
    p ∈ g.next.livePoints ↔ Lives g.livePoints p := by
  rw [livePoints_next, Finset.mem_filter]
  constructor
  · exact fun h => h.2
  · intro lives
    obtain ⟨q, alive, beside⟩ := exists_of_lives lives
    exact ⟨room p q alive (by omega), lives⟩

private theorem Room.next (room : g.Room (n + 1)) : g.next.Room n := by
  intro p q alive within
  obtain ⟨r, alive', beside⟩ := exists_of_lives ((mem_livePoints_next_of_room room).1 alive)
  have triangle := distance_triangle p q r
  exact room p r alive' (by omega)

/-- Two grids with the same live points, one of them displaced, stay so as long as both have room. -/
theorem mem_livePoints_after_of_room (roomA : a.Room n) (roomB : b.Room n)
    (same : ∀ q, q ∈ a.livePoints ↔ shift offset q ∈ b.livePoints) :
    p ∈ (a.after n).livePoints ↔ shift offset p ∈ (b.after n).livePoints := by
  induction n generalizing a b with
  | zero => exact same p
  | succ n ih =>
    refine ih roomA.next roomB.next ?_
    intro q
    rw [mem_livePoints_next_of_room roomA, mem_livePoints_next_of_room roomB]
    exact lives_shift fun r _ => same r

end Room

section Placed

variable {p q g a b : Grid} {row col row' col' margin k : Nat}

namespace PlacedIn

private theorem mono (h : p.PlacedIn g row col margin) (less : k ≤ margin) : p.PlacedIn g row col k where
  rows := ⟨Nat.le_trans less h.rows.1, Nat.le_trans (Nat.add_le_add_left less _) h.rows.2⟩
  cols := ⟨Nat.le_trans less h.cols.1, Nat.le_trans (Nat.add_le_add_left less _) h.cols.2⟩
  pattern := h.pattern
  elsewhere := h.elsewhere

private theorem window (h : p.PlacedIn g row col margin) {x : Point} (alive : x ∈ g.livePoints) :
    (row ≤ x.1 ∧ x.1 < row + p.height) ∧ col ≤ x.2 ∧ x.2 < col + p.width := by
  obtain ⟨i, j, rfl, -⟩ := exists_natCast_of_mem_frame (mem_frame_of_mem_livePoints alive)
  have inside := h.elsewhere i j (mem_livePoints_natCast.1 alive)
  simp only
  omega

private theorem mem_livePoints (h : p.PlacedIn g row col margin) {x : Point} :
    x ∈ p.livePoints ↔ shift (row, col) x ∈ g.livePoints := by
  have cell : ∀ i j : Nat, i < p.height → j < p.width →
      (((i, j) : Point) ∈ p.livePoints ↔ shift (row, col) (i, j) ∈ g.livePoints) := by
    intro i j hi hj
    rw [shift_natCast, mem_livePoints_natCast, mem_livePoints_natCast, h.pattern i j hi hj]
  constructor
  · intro alive
    obtain ⟨i, j, rfl, hi, hj⟩ := exists_natCast_of_mem_frame (mem_frame_of_mem_livePoints alive)
    exact (cell i j hi hj).1 alive
  · intro alive
    have inside := h.window alive
    simp only [shift] at inside
    have place : x = ((x.1.toNat : Int), (x.2.toNat : Int)) := Prod.ext (by omega) (by omega)
    rw [place] at alive ⊢
    exact (cell _ _ (by omega) (by omega)).2 alive

private theorem of_livePoints (rows : margin ≤ row ∧ row + p.height + margin ≤ g.height)
    (cols : margin ≤ col ∧ col + p.width + margin ≤ g.width)
    (live : ∀ x, x ∈ p.livePoints ↔ shift (row, col) x ∈ g.livePoints) :
    p.PlacedIn g row col margin where
  rows
  cols
  pattern := by
    intro i j hi hj
    refine get?_eq_of_alive_iff (by omega) ⟨hi, hj⟩ ?_
    rw [← mem_livePoints_natCast, ← mem_livePoints_natCast, ← shift_natCast]
    exact (live (i, j)).symm
  elsewhere := by
    intro i j alive
    obtain ⟨x, moved⟩ := exists_shift (row, col) (i, j)
    rw [← mem_livePoints_natCast, ← moved, ← live] at alive
    have inside := mem_frame.1 (mem_frame_of_mem_livePoints alive)
    simp only [shift, Prod.mk.injEq] at moved
    omega

private theorem room (h : p.PlacedIn g row col margin) : g.Room margin := by
  intro x y alive within
  have inside := h.window alive
  have rows := h.rows
  have cols := h.cols
  simp only [distance] at within
  rw [mem_frame]
  omega

private theorem mem_livePoints_after (first : p.PlacedIn a row col k) (second : p.PlacedIn b row' col' k)
    {x : Point} : shift (row, col) x ∈ (a.after k).livePoints ↔
      shift (row', col') x ∈ (b.after k).livePoints := by
  have together : ∀ y : Point,
      shift ((row' : Int) - row, (col' : Int) - col) (shift (row, col) y) = shift (row', col') y := by
    intro y
    simp only [shift, Prod.mk.injEq]
    omega
  rw [← together x]
  refine mem_livePoints_after_of_room first.room second.room ?_
  intro y
  obtain ⟨y, rfl⟩ := exists_shift (row, col) y
  rw [together, ← first.mem_livePoints, ← second.mem_livePoints]

private theorem eq_dead_of_outside (h : p.PlacedIn g row col margin) {n i j : Nat} {cell : Cell}
    (present : (g.after n).get? i j = some cell)
    (outside : ¬ ((row ≤ i + n ∧ i < row + p.height + n) ∧ col ≤ j + n ∧ j < col + p.width + n)) :
    cell = .dead := by
  cases cell with
  | dead => rfl
  | alive =>
    obtain ⟨x, before, within⟩ :=
      exists_near_of_mem_livePoints_after (mem_livePoints_natCast.2 present)
    have inside := h.window before
    simp only [distance] at within
    omega

section Window

variable {i j : Int} (h : p.PlacedIn g row col margin) (fromTop : -margin ≤ i) (fromLeft : -margin ≤ j)

include h fromTop fromLeft

private theorem shift_eq : shift (row, col) (i, j) =
    (((row + i).toNat : Int), ((col + j).toNat : Int)) := by
  have rows := h.rows
  have cols := h.cols
  simp only [shift, Prod.mk.injEq]
  omega

private theorem inside (toBottom : i < p.height + margin) (toRight : j < p.width + margin) {n : Nat} :
    (row + i).toNat < (g.after n).height ∧ (col + j).toNat < (g.after n).width := by
  have rows := h.rows
  have cols := h.cols
  rw [height_after, width_after]
  omega

end Window

end PlacedIn

private theorem placedIn_pad {top bottom left right : Nat} (above : margin ≤ top) (below : margin ≤ bottom)
    (before : margin ≤ left) (behind : margin ≤ right) :
    p.PlacedIn (p.pad top bottom left right) top left margin := by
  refine .of_livePoints ⟨above, ?_⟩ ⟨before, ?_⟩ fun _ => mem_livePoints_pad
  · rw [height_pad]
    omega
  · rw [width_pad]
    omega

/-- What stands in the smallest grid with room for a pattern, after its generations, stands in every other
one as well, at the same distance from the place of the pattern; room that was left over is still there. -/
theorem PlacedIn.of_smallest {m : Nat} (h : p.PlacedIn a row col (k + m)) {i j : Nat}
    (seen : q.PlacedIn ((p.pad k k k k).after k) i j 0) :
    q.PlacedIn (a.after k) (row - k + i) (col - k + j) m := by
  have least : p.PlacedIn (p.pad k k k k) k k k :=
    placedIn_pad (Nat.le_refl k) (Nat.le_refl k) (Nat.le_refl k) (Nat.le_refl k)
  have rows := h.rows
  have cols := h.cols
  have seenRows := seen.rows
  have seenCols := seen.cols
  rw [height_after, height_pad] at seenRows
  rw [width_after, width_pad] at seenCols
  refine .of_livePoints ?_ ?_ ?_
  · rw [height_after]
    omega
  · rw [width_after]
    omega
  · intro x
    obtain ⟨y, hy⟩ := exists_shift (k, k) (shift (i, j) x)
    have moved : shift (((row - k + i : Nat) : Int), ((col - k + j : Nat) : Int)) x =
        shift (row, col) y := by
      simp only [shift, Prod.mk.injEq] at hy ⊢
      omega
    rw [seen.mem_livePoints, ← hy, moved]
    exact least.mem_livePoints_after (h.mono (Nat.le_add_right k m))

private theorem PlacedIn.of_after_pad {m top bottom left right : Nat} (h : p.PlacedIn a row col (k + m))
    (seen : (p.pad k k k k).after k = q.pad top bottom left right) :
    q.PlacedIn (a.after k) (row - k + top) (col - k + left) m := by
  refine h.of_smallest ?_
  rw [seen]
  exact placedIn_pad (Nat.zero_le top) (Nat.zero_le bottom) (Nat.zero_le left) (Nat.zero_le right)

/-- Patterns evolve independently of where they are placed. After as many generations as there are dead
rows and columns on each side of a pattern, two grids hold the same cells around it, and nothing else in
them is alive. Hence whatever comes of the pattern on the smallest such grid comes of it on every other. -/
theorem after_placedIn (first : p.PlacedIn a row col k) (second : p.PlacedIn b row' col' k) :
    (∀ i j : Int, -k ≤ i → i < p.height + k → -k ≤ j → j < p.width + k →
      ∃ cell, (a.after k).get? (row + i).toNat (col + j).toNat = some cell ∧
        (b.after k).get? (row' + i).toNat (col' + j).toNat = some cell) ∧
    (∀ i j cell, (a.after k).get? i j = some cell →
      ¬ ((row ≤ i + k ∧ i < row + p.height + k) ∧ col ≤ j + k ∧ j < col + p.width + k) →
      cell = .dead) ∧
    (∀ i j cell, (b.after k).get? i j = some cell →
      ¬ ((row' ≤ i + k ∧ i < row' + p.height + k) ∧ col' ≤ j + k ∧ j < col' + p.width + k) →
      cell = .dead) ∧
    ∀ q i j, PlacedIn q ((p.pad k k k k).after k) i j 0 →
      q.PlacedIn (a.after k) (row - k + i) (col - k + j) 0 ∧
      q.PlacedIn (b.after k) (row' - k + i) (col' - k + j) 0 := by
  refine ⟨?_, fun i j cell => first.eq_dead_of_outside, fun i j cell => second.eq_dead_of_outside, ?_⟩
  · intro i j fromTop toBottom fromLeft toRight
    have inside := first.inside fromTop fromLeft toBottom toRight (n := k)
    have inside' := second.inside fromTop fromLeft toBottom toRight (n := k)
    obtain ⟨cell, hcell⟩ := Option.isSome_iff_exists.1 (isSome_get?.2 inside)
    refine ⟨cell, hcell, ?_⟩
    rw [← hcell]
    refine get?_eq_of_alive_iff inside' inside ?_
    rw [← mem_livePoints_natCast, ← mem_livePoints_natCast, ← first.shift_eq fromTop fromLeft,
      ← second.shift_eq fromTop fromLeft]
    exact second.mem_livePoints_after first
  · intro q i j seen
    exact ⟨first.of_smallest seen, second.of_smallest seen⟩

end Placed

theorem after_placedIn_blinker :
    let blinker := ofFn 3 1 (by decide) (by decide) fun _ _ => .alive
    let corner := blinker.pad 2 5 2 6
    let middle := blinker.pad 4 2 3 4
    blinker.PlacedIn corner 2 2 2 ∧ blinker.PlacedIn middle 4 3 2 ∧
      ∀ i j : Int, -2 ≤ i → i < 1 + 2 → -2 ≤ j → j < 3 + 2 →
        ∃ cell, (corner.after 2).get? (2 + i).toNat (2 + j).toNat = some cell ∧
          (middle.after 2).get? (4 + i).toNat (3 + j).toNat = some cell := by
  intro blinker corner middle
  have first : blinker.PlacedIn corner 2 2 2 :=
    placedIn_pad (by decide) (by decide) (by decide) (by decide)
  have second : blinker.PlacedIn middle 4 3 2 :=
    placedIn_pad (by decide) (by decide) (by decide) (by decide)
  exact ⟨first, second, (after_placedIn first second).1⟩

section Glider

def glider : Grid :=
  ofFn 3 3 (by decide) (by decide) fun row col =>
    if row = 2 ∨ row = 1 ∧ col = 2 ∨ row = 0 ∧ col = 1 then .alive else .dead

def turnedGlider : Grid :=
  ofFn 3 3 (by decide) (by decide) fun row col =>
    if col = 2 ∨ col = 1 ∧ row = 2 ∨ col = 0 ∧ row = 1 then .alive else .dead

private theorem after_glider : (glider.pad 2 2 2 2).after 2 = turnedGlider.pad 3 1 2 2 := by
  decide +kernel

private theorem after_turnedGlider : (turnedGlider.pad 2 2 2 2).after 2 = glider.pad 2 2 3 1 := by
  decide +kernel

variable {g : Grid} {row col margin : Nat}

private theorem PlacedIn.turnedGlider_after (h : glider.PlacedIn g row col (2 + margin)) :
    turnedGlider.PlacedIn (g.after 2) (row + 1) col margin := by
  have rows := h.rows
  have cols := h.cols
  have placed := h.of_after_pad after_glider
  rwa [show row - 2 + 3 = row + 1 by omega, show col - 2 + 2 = col by omega] at placed

private theorem PlacedIn.glider_after_turned (h : turnedGlider.PlacedIn g row col (2 + margin)) :
    glider.PlacedIn (g.after 2) row (col + 1) margin := by
  have rows := h.rows
  have cols := h.cols
  have placed := h.of_after_pad after_turnedGlider
  rwa [show row - 2 + 2 = row by omega, show col - 2 + 3 = col + 1 by omega] at placed

/-- In every grid a glider moves one cell along the diagonal every four generations, if there are as many
rows and columns around it as generations. -/
theorem PlacedIn.glider_after {n : Nat} (h : glider.PlacedIn g row col (4 * n + margin)) :
    glider.PlacedIn (g.after (4 * n)) (row + n) (col + n) margin := by
  induction n generalizing g row col with
  | zero => exact h.mono (by omega)
  | succ n ih =>
    have whole : glider.PlacedIn g row col (2 + (2 + (4 * n + margin))) := h.mono (by omega)
    have next := ih whole.turnedGlider_after.glider_after_turned
    rw [show 4 * (n + 1) = 2 + 2 + 4 * n by omega, after_add, after_add,
      show row + (n + 1) = row + 1 + n by omega, show col + (n + 1) = col + 1 + n by omega]
    exact next

end Glider

end GameOfLife.Grid

import GameOfLife.Proofs.Plane
import Mathlib.Data.Finset.Card

/-!
How fast things spread. In one generation a cell is influenced by the cells at distance one at most, so
after some generations by those at no greater distance than there were generations. Two grids, laid one
over the other in any position or turned over, agree at a point as long as they agree that far around it; and
no point is alive that is farther than that from every point that was alive.
-/

set_option autoImplicit false
set_option relaxedAutoImplicit false

namespace GameOfLife

namespace Plane

def shift (offset p : Point) : Point :=
  (p.1 + offset.1, p.2 + offset.2)

theorem distance_self (p : Point) : distance p p = 0 := by
  simp [distance]

theorem distance_comm (p q : Point) : distance p q = distance q p := by
  simp only [distance]
  omega

theorem distance_triangle (p q r : Point) : distance p r ≤ distance p q + distance q r := by
  refine Nat.max_le.2 ⟨?_, ?_⟩
  · calc (r.1 - p.1).natAbs
        ≤ (q.1 - p.1).natAbs + (r.1 - q.1).natAbs := by omega
      _ ≤ distance p q + distance q r := Nat.add_le_add (Nat.le_max_left ..) (Nat.le_max_left ..)
  · calc (r.2 - p.2).natAbs
        ≤ (q.2 - p.2).natAbs + (r.2 - q.2).natAbs := by omega
      _ ≤ distance p q + distance q r := Nat.add_le_add (Nat.le_max_right ..) (Nat.le_max_right ..)

private theorem eq_of_distance_eq_zero {p q : Point} (h : distance p q = 0) : p = q := by
  simp only [distance] at h
  exact Prod.ext (by omega) (by omega)

/-- A map of the plane onto itself that leaves every distance as it is. -/
structure Rigid (f : Point → Point) : Prop where
  surjective : Function.Surjective f
  distance_eq : ∀ p q, distance (f p) (f q) = distance p q

private theorem Rigid.injective {f : Point → Point} (h : Rigid f) : Function.Injective f := by
  intro p q same
  refine eq_of_distance_eq_zero ?_
  rw [← h.distance_eq, same, distance_self]

theorem exists_shift (offset p : Point) : ∃ q, shift offset q = p :=
  ⟨(p.1 - offset.1, p.2 - offset.2), by simp [shift]⟩

private theorem rigid_shift (offset : Point) : Rigid (shift offset) where
  surjective := exists_shift offset
  distance_eq := by
    intro p q
    simp only [distance, shift]
    omega

private theorem shift_zero (p : Point) : shift (0, 0) p = p := by
  simp [shift]

theorem shift_natCast (row col i j : Nat) :
    shift (row, col) (i, j) = (((row + i : Nat) : Int), ((col + j : Nat) : Int)) := by
  simp [shift, Int.add_comm]

section Rule

variable {live live' : Finset Point} {f : Point → Point} {offset p : Point}

private theorem around_of_rigid (rigid : Rigid f) (near : ∀ q, distance p q ≤ 1 → (q ∈ live ↔ f q ∈ live')) :
    around live' (f p) = (around live p).image f := by
  ext q
  obtain ⟨q, rfl⟩ := rigid.surjective q
  simp only [around, Finset.mem_filter, Finset.mem_image, rigid.injective.eq_iff, exists_eq_right,
    rigid.distance_eq]
  constructor
  · rintro ⟨alive, next⟩
    exact ⟨(near q (by omega)).2 alive, next⟩
  · rintro ⟨alive, next⟩
    exact ⟨(near q (by omega)).1 alive, next⟩

private theorem lives_of_rigid (rigid : Rigid f) (near : ∀ q, distance p q ≤ 1 → (q ∈ live ↔ f q ∈ live')) :
    Lives live p ↔ Lives live' (f p) := by
  have self : p ∈ live ↔ f p ∈ live' := near p (by simp [distance_self])
  rw [Lives, Lives, around_of_rigid rigid near, Finset.card_image_of_injective _ rigid.injective, self]

theorem lives_shift (near : ∀ q, distance p q ≤ 1 → (q ∈ live ↔ shift offset q ∈ live')) :
    Lives live p ↔ Lives live' (shift offset p) :=
  lives_of_rigid (rigid_shift offset) near

theorem exists_of_lives (h : Lives live p) : ∃ q ∈ live, distance p q = 1 := by
  have some : (around live p).Nonempty := by
    rw [← Finset.card_pos]
    rcases h with born | ⟨kept, -⟩ <;> omega
  obtain ⟨q, member⟩ := some
  exact ⟨q, Finset.mem_filter.1 member⟩

end Rule

end Plane

namespace Grid

open Plane

section Rigid

variable {a b : Grid} {f : Point → Point} {p : Point} {n : Nat}

private theorem mem_livePoints_next_of_rigid (rigid : Rigid f) (frame : p ∈ a.frame ↔ f p ∈ b.frame)
    (near : ∀ q, distance p q ≤ 1 → (q ∈ a.livePoints ↔ f q ∈ b.livePoints)) :
    p ∈ a.next.livePoints ↔ f p ∈ b.next.livePoints := by
  rw [livePoints_next, livePoints_next, Finset.mem_filter, Finset.mem_filter, frame,
    lives_of_rigid rigid near]

/-- Grids that agree as far around a point as there are generations agree at the point after these
generations; the outermost cells have to agree at the beginning only, so they may lie outside one of the
grids. -/
theorem mem_livePoints_after_of_rigid (rigid : Rigid f)
    (frame : ∀ q, distance p q < n → (q ∈ a.frame ↔ f q ∈ b.frame))
    (near : ∀ q, distance p q ≤ n → (q ∈ a.livePoints ↔ f q ∈ b.livePoints)) :
    p ∈ (a.after n).livePoints ↔ f p ∈ (b.after n).livePoints := by
  induction n generalizing a b with
  | zero => exact near p (by simp [distance_self])
  | succ n ih =>
    refine ih ?_ ?_
    · intro q within
      exact frame q (by omega)
    · -- One generation costs one layer of what the grids agree on.
      intro q within
      refine mem_livePoints_next_of_rigid rigid (frame q (by omega)) ?_
      intro r beside
      have triangle := distance_triangle p q r
      exact near r (by omega)

theorem mem_livePoints_after_iff {offset : Point}
    (frame : ∀ q, distance p q < n → (q ∈ a.frame ↔ shift offset q ∈ b.frame))
    (near : ∀ q, distance p q ≤ n → (q ∈ a.livePoints ↔ shift offset q ∈ b.livePoints)) :
    p ∈ (a.after n).livePoints ↔ shift offset p ∈ (b.after n).livePoints :=
  mem_livePoints_after_of_rigid (rigid_shift offset) frame near

end Rigid

theorem frame_eq_of_sameSize {a b : Grid} (size : a.SameSize b) : a.frame = b.frame := by
  rw [frame, frame, size.1, size.2]

private theorem sameSize_after {a b : Grid} (size : a.SameSize b) (n : Nat) :
    (a.after n).SameSize (b.after n) := by
  simpa [SameSize] using size

/-- What is far away makes no difference: after some generations a cell follows from the cells that were no
farther from it than there are generations. -/
theorem get?_after_eq_of_near {a b : Grid} (size : a.SameSize b) {n row col : Nat}
    (near : ∀ i j : Nat, i < a.height → j < a.width → distance (row, col) (i, j) ≤ n →
      a.get? i j = b.get? i j) :
    (a.after n).get? row col = (b.after n).get? row col := by
  have sizes : (a.after n).SameSize (b.after n) := sameSize_after size n
  have alike : ∀ q, distance (row, col) q ≤ n → (q ∈ a.livePoints ↔ q ∈ b.livePoints) := by
    intro q within
    refine mem_livePoints_congr ?_
    rintro i j rfl
    by_cases inside : i < a.height ∧ j < a.width
    · exact near i j inside.1 inside.2 within
    · have outside : ¬ (i < b.height ∧ j < b.width) := by rwa [← size.1, ← size.2]
      rw [get?_eq_none_iff.2 inside, get?_eq_none_iff.2 outside]
  by_cases inside : row < (a.after n).height ∧ col < (a.after n).width
  · have inside' : row < (b.after n).height ∧ col < (b.after n).width := by
      rwa [← sizes.1, ← sizes.2]
    -- The grids lie one over the other: neither is displaced.
    have unmoved : ((row, col) : Point) ∈ (a.after n).livePoints ↔
        shift (0, 0) (row, col) ∈ (b.after n).livePoints := by
      refine mem_livePoints_after_iff ?_ ?_
      · intro q _
        rw [shift_zero, frame_eq_of_sameSize size]
      · intro q within
        rw [shift_zero]
        exact alike q within
    rw [shift_zero, mem_livePoints_natCast, mem_livePoints_natCast] at unmoved
    exact get?_eq_of_alive_iff inside inside' unmoved
  · have outside : ¬ (row < (b.after n).height ∧ col < (b.after n).width) := by
      rwa [← sizes.1, ← sizes.2]
    rw [get?_eq_none_iff.2 inside, get?_eq_none_iff.2 outside]

theorem get?_after_eq_of_near_blinker :
    let blinker := ofFn 6 3 (by decide) (by decide) fun row col =>
      if row = 1 ∧ col < 3 then .alive else .dead
    let company := ofFn 6 3 (by decide) (by decide) fun row col =>
      if row = 1 ∧ col < 3 ∨ 4 ≤ col then .alive else .dead
    blinker.SameSize company ∧
      (∀ i j : Nat, i < blinker.height → j < blinker.width → distance (1, 1) (i, j) ≤ 2 →
        blinker.get? i j = company.get? i j) ∧
      (blinker.after 2).get? 1 1 = (company.after 2).get? 1 1 := by
  intro blinker company
  have size : blinker.SameSize company := by decide
  have near : ∀ i j : Nat, i < blinker.height → j < blinker.width → distance (1, 1) (i, j) ≤ 2 →
      blinker.get? i j = company.get? i j := by
    intro i j _ _ within
    have left : ¬ 4 ≤ j := by
      simp only [distance] at within
      omega
    simp [blinker, company, get?_ofFn, left]
  exact ⟨size, near, get?_after_eq_of_near size near⟩

/-- Whatever is alive was reached from a point that was alive, one step a generation. -/
theorem exists_near_of_mem_livePoints_after {g : Grid} {p : Point} {n : Nat}
    (h : p ∈ (g.after n).livePoints) : ∃ q ∈ g.livePoints, distance p q ≤ n := by
  induction n generalizing g with
  | zero => exact ⟨p, h, by simp [distance_self]⟩
  | succ n ih =>
    obtain ⟨q, alive, within⟩ := ih h
    obtain ⟨r, alive', beside⟩ := exists_of_lives (lives_of_mem_livePoints_next alive)
    have triangle := distance_triangle p q r
    exact ⟨r, alive', by omega⟩

end Grid

end GameOfLife

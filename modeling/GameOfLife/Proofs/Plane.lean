import GameOfLife.Generation
import GameOfLife.Grid.Lemmas
import Mathlib.Data.Finset.Prod

/-!
Generations on the plane of integer points. A grid is seen as the finite set of its live points, and
a step of the plane lets every point live that has three live points at distance one, or two and is
alive itself. The next generation of a grid is that step, cut back to the frame of the grid.
-/

set_option autoImplicit false
set_option relaxedAutoImplicit false

namespace GameOfLife

abbrev Point := Int × Int

namespace Plane

/-- The larger one of the differences in row and in column. -/
def distance (p q : Point) : Nat :=
  max (q.1 - p.1).natAbs (q.2 - p.2).natAbs

def around (live : Finset Point) (p : Point) : Finset Point :=
  live.filter fun q => distance p q = 1

/-- Whether a point is alive after a step, given the points that are alive before. -/
def Lives (live : Finset Point) (p : Point) : Prop :=
  (around live p).card = 3 ∨ (around live p).card = 2 ∧ p ∈ live

instance (live : Finset Point) (p : Point) : Decidable (Lives live p) :=
  inferInstanceAs (Decidable (_ ∨ _))

end Plane

namespace Grid

open Plane

def frame (g : Grid) : Finset Point :=
  (Finset.range g.height ×ˢ Finset.range g.width).image fun p => ((p.1 : Int), (p.2 : Int))

def livePoints (g : Grid) : Finset Point :=
  g.frame.filter fun p => g.get? p.1.toNat p.2.toNat = some .alive

theorem exists_natCast_of_mem_frame {g : Grid} {p : Point} (h : p ∈ g.frame) :
    ∃ row col : Nat, p = ((row : Int), (col : Int)) ∧ row < g.height ∧ col < g.width := by
  obtain ⟨⟨row, col⟩, inside, rfl⟩ := Finset.mem_image.1 h
  rw [Finset.mem_product, Finset.mem_range, Finset.mem_range] at inside
  exact ⟨row, col, rfl, inside⟩

private theorem mem_frame_natCast {g : Grid} {row col : Nat} :
    ((row, col) : Point) ∈ g.frame ↔ row < g.height ∧ col < g.width := by
  constructor
  · intro h
    obtain ⟨row', col', same, place⟩ := exists_natCast_of_mem_frame h
    simp only [Prod.mk.injEq, Int.natCast_inj] at same
    rwa [same.1, same.2]
  · intro place
    refine Finset.mem_image.2 ⟨(row, col), ?_, rfl⟩
    rwa [Finset.mem_product, Finset.mem_range, Finset.mem_range]

theorem mem_frame {g : Grid} {p : Point} :
    p ∈ g.frame ↔ (0 ≤ p.1 ∧ p.1 < g.height) ∧ 0 ≤ p.2 ∧ p.2 < g.width := by
  constructor
  · intro h
    obtain ⟨row, col, rfl, place⟩ := exists_natCast_of_mem_frame h
    simp only
    omega
  · rintro ⟨rows, cols⟩
    have place : p = ((p.1.toNat : Int), (p.2.toNat : Int)) :=
      Prod.ext (Int.toNat_of_nonneg rows.1).symm (Int.toNat_of_nonneg cols.1).symm
    rw [place, mem_frame_natCast]
    omega

theorem mem_livePoints_natCast {g : Grid} {row col : Nat} :
    ((row, col) : Point) ∈ g.livePoints ↔ g.get? row col = some .alive := by
  simp only [livePoints, Finset.mem_filter, mem_frame_natCast, Int.toNat_natCast,
    and_iff_right_iff_imp]
  intro alive
  exact isSome_get?.1 (by rw [alive]; rfl)

theorem mem_frame_of_mem_livePoints {g : Grid} {p : Point} (h : p ∈ g.livePoints) : p ∈ g.frame :=
  (Finset.mem_filter.1 h).1

theorem mem_livePoints_congr {a b : Grid} {p : Point}
    (same : ∀ row col : Nat, p = ((row : Int), (col : Int)) → a.get? row col = b.get? row col) :
    p ∈ a.livePoints ↔ p ∈ b.livePoints := by
  by_cases place : ∃ row col : Nat, p = ((row : Int), (col : Int))
  · obtain ⟨row, col, rfl⟩ := place
    rw [mem_livePoints_natCast, mem_livePoints_natCast, same row col rfl]
  · have nowhere : ∀ g : Grid, p ∉ g.livePoints := by
      intro g alive
      obtain ⟨row, col, hp, -⟩ := exists_natCast_of_mem_frame (mem_frame_of_mem_livePoints alive)
      exact place ⟨row, col, hp⟩
    exact iff_of_false (nowhere a) (nowhere b)

theorem eq_of_livePoints {a b : Grid} (size : a.SameSize b)
    (same : ∀ p, p ∈ a.livePoints ↔ p ∈ b.livePoints) : a = b := by
  refine ext_get? size ?_
  intro row col hrow hcol
  refine get?_eq_of_alive_iff ⟨hrow, hcol⟩ ⟨size.2 ▸ hrow, size.1 ▸ hcol⟩ ?_
  rw [← mem_livePoints_natCast, ← mem_livePoints_natCast]
  exact same (row, col)

theorem mem_livePoints_iff_aliveAt {g : Grid} {p : Point} :
    p ∈ g.livePoints ↔ g.aliveAt p.1 p.2 = true := by
  rw [aliveAt_iff]
  constructor
  · intro h
    obtain ⟨inside, alive⟩ := Finset.mem_filter.1 h
    obtain ⟨row, col, rfl, -⟩ := exists_natCast_of_mem_frame inside
    exact ⟨Int.natCast_nonneg row, Int.natCast_nonneg col, alive⟩
  · rintro ⟨hrow, hcol, alive⟩
    have place : p = ((p.1.toNat : Int), (p.2.toNat : Int)) :=
      Prod.ext (Int.toNat_of_nonneg hrow).symm (Int.toNat_of_nonneg hcol).symm
    rw [place]
    exact mem_livePoints_natCast.2 alive

theorem mem_map_neighborOffsets {p q : Point} :
    q ∈ neighborOffsets.map (fun offset => (p.1 + offset.1, p.2 + offset.2)) ↔
      distance p q = 1 := by
  obtain ⟨row, col⟩ := p
  obtain ⟨row', col'⟩ := q
  simp only [neighborOffsets, List.map_cons, List.map_nil, List.mem_cons, List.not_mem_nil,
    or_false, Prod.mk.injEq, distance]
  omega

private theorem nodup_map_neighborOffsets (p : Point) :
    (neighborOffsets.map fun offset => (p.1 + offset.1, p.2 + offset.2)).Nodup := by
  refine List.Nodup.map ?_ (by decide)
  intro a b h
  simp only [Prod.mk.injEq] at h
  exact Prod.ext (by omega) (by omega)

/-- Counting along the displacements counts the live points at distance one. -/
theorem liveNeighbors_eq_card (g : Grid) (p : Point) :
    g.liveNeighbors p.1 p.2 = (around g.livePoints p).card := by
  -- No two displacements lead to the same point, so the count is that of a set.
  have shifted : g.liveNeighbors p.1 p.2 =
      ((neighborOffsets.map fun offset => (p.1 + offset.1, p.2 + offset.2)).filter
        fun q => g.aliveAt q.1 q.2).length := by
    rw [← List.countP_eq_length_filter, List.countP_map]
    rfl
  rw [shifted, ← List.toFinset_card_of_nodup ((nodup_map_neighborOffsets p).filter _)]
  congr 1
  ext q
  simp only [List.mem_toFinset, List.mem_filter, mem_map_neighborOffsets, around,
    Finset.mem_filter, mem_livePoints_iff_aliveAt]
  exact and_comm

theorem get?_next_eq_alive_iff {g : Grid} {row col : Nat} :
    g.next.get? row col = some .alive ↔
      (row < g.height ∧ col < g.width) ∧ Lives g.livePoints (row, col) := by
  rw [next, get?_ofFn]
  split
  · next inside =>
    obtain ⟨cell, hcell⟩ := Option.isSome_iff_exists.1 (isSome_get?.2 inside)
    have count := liveNeighbors_eq_card g (row, col)
    have self : cell = .alive ↔ ((row, col) : Point) ∈ g.livePoints := by
      rw [mem_livePoints_natCast, hcell, Option.some.injEq]
    -- The rule for a single cell, with its neighbours counted on the plane.
    simp only [hcell, Option.getD_some, Option.some.injEq, ← Cell.isAlive_iff, Cell.isAlive_step,
      count, inside, and_self, true_and, Lives, ← self]
  · next outside => simp [outside]

theorem livePoints_next (g : Grid) :
    g.next.livePoints = g.frame.filter (Lives g.livePoints) := by
  ext p
  rw [Finset.mem_filter]
  constructor
  · intro h
    have inside : p ∈ g.frame := (Finset.mem_filter.1 h).1
    obtain ⟨row, col, rfl, -⟩ := exists_natCast_of_mem_frame inside
    exact ⟨inside, (get?_next_eq_alive_iff.1 (mem_livePoints_natCast.1 h)).2⟩
  · rintro ⟨inside, lives⟩
    obtain ⟨row, col, rfl, place⟩ := exists_natCast_of_mem_frame inside
    exact mem_livePoints_natCast.2 (get?_next_eq_alive_iff.2 ⟨place, lives⟩)

theorem lives_of_mem_livePoints_next {g : Grid} {p : Point} (h : p ∈ g.next.livePoints) :
    Lives g.livePoints p := by
  rw [livePoints_next] at h
  exact (Finset.mem_filter.1 h).2

/-- One generation of a grid of any size is one birth on three, survival on two or three, of the
infinite plane on which only the grid is populated, cut back to the grid. -/
theorem next_refines_plane (g : Grid) :
    g.next.width = g.width ∧ g.next.height = g.height ∧
    (∀ row col : Nat, g.next.get? row col = some .alive ↔
      (row < g.height ∧ col < g.width) ∧
        ((around g.livePoints (row, col)).card = 3 ∨
          (around g.livePoints (row, col)).card = 2 ∧ g.get? row col = some .alive)) ∧
    g.next.livePoints = g.frame.filter (Lives g.livePoints) := by
  refine ⟨rfl, rfl, ?_, livePoints_next g⟩
  intro row col
  rw [get?_next_eq_alive_iff, Lives, mem_livePoints_natCast]

end Grid

end GameOfLife

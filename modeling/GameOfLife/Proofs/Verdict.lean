import GameOfLife.Proofs.Plane
import GameOfLife.Verdict
import Mathlib.Data.List.Pairwise

/-!
What a verdict says. Comparing two grids row by row decides whether they are equal, so a verdict is
positive exactly when the target is the next generation; otherwise, if the sizes agree, its mismatches
are the places at which the two differ, in the order of reading.
-/

set_option autoImplicit false
set_option relaxedAutoImplicit false

namespace GameOfLife

open Plane

/-- Whether a place is read before another: in an earlier row, or further left in the same row. -/
def ReadBefore (a b : Nat × Nat) : Prop :=
  a.1 < b.1 ∨ a.1 = b.1 ∧ a.2 < b.2

theorem ReadBefore.ne {a b : Nat × Nat} (h : ReadBefore a b) : a ≠ b := by
  rintro rfl
  simp only [ReadBefore] at h
  omega

namespace Grid

/-- Whether a grid is what the plane makes of another: of the same size, and alive exactly where a
point of the plane lives. -/
def Follows (target current : Grid) : Prop :=
  target.SameSize current ∧
    ∀ row col, row < target.height → col < target.width →
      (target.get? row col = some .alive ↔ Lives current.livePoints (row, col))

theorem SameSize.symm {a b : Grid} (h : a.SameSize b) : b.SameSize a :=
  ⟨h.1.symm, h.2.symm⟩

theorem SameSize.trans {a b c : Grid} (h : a.SameSize b) (h' : b.SameSize c) : a.SameSize c :=
  ⟨h.1.trans h'.1, h.2.trans h'.2⟩

private theorem all_zip_iff {a b : List (List Cell)} (h : a.length = b.length) :
    ((a.zip b).all fun pair => pair.1 == pair.2) = true ↔ a = b := by
  induction a generalizing b with
  | nil =>
    have none : b = [] := List.length_eq_zero_iff.1 h.symm
    simp [none]
  | cons row a ih =>
    cases b with
    | nil => simp at h
    | cons row' b => simp [ih (Nat.succ.inj h)]

theorem sameState_iff {a b : Grid} : a.sameState b = true ↔ a = b := by
  unfold sameState
  rw [Bool.and_eq_true, decide_eq_true_eq]
  constructor
  · rintro ⟨size, rows⟩
    have length : a.rows.length = b.rows.length := by
      rw [length_rows, length_rows, size.2]
    exact rows_injective ((all_zip_iff length).1 rows)
  · rintro rfl
    exact ⟨⟨rfl, rfl⟩, (all_zip_iff rfl).2 rfl⟩

/-- Only the next generation follows a grid. -/
theorem follows_iff {target current : Grid} : target.Follows current ↔ target = current.next := by
  constructor
  · rintro ⟨size, cells⟩
    have sizeNext : target.SameSize current.next := size
    refine ext_get? sizeNext ?_
    intro row col hrow hcol
    have inside : row < current.height ∧ col < current.width := ⟨size.2 ▸ hrow, size.1 ▸ hcol⟩
    refine get?_eq_of_alive_iff ⟨hrow, hcol⟩ inside ?_
    rw [cells row col hrow hcol, get?_next_eq_alive_iff, and_iff_right inside]
  · rintro rfl
    refine ⟨⟨rfl, rfl⟩, ?_⟩
    intro row col hrow hcol
    rw [get?_next_eq_alive_iff, and_iff_right ⟨hrow, hcol⟩]

theorem mem_differences {a b : Grid} {row col : Nat} :
    (row, col) ∈ a.differences b ↔
      (row < a.height ∧ col < a.width) ∧ a.get? row col ≠ b.get? row col := by
  simp [differences, mem_coordinates]

theorem differences_ne_nil {a b : Grid} (size : a.SameSize b) (different : a ≠ b) :
    a.differences b ≠ [] := by
  intro none
  refine different (ext_get? size ?_)
  intro row col hrow hcol
  by_contra differ
  -- Then this place is listed.
  have member : (row, col) ∈ a.differences b := mem_differences.2 ⟨⟨hrow, hcol⟩, differ⟩
  rw [none] at member
  exact List.not_mem_nil member

theorem pairwise_coordinates (g : Grid) : g.coordinates.Pairwise ReadBefore := by
  unfold coordinates
  rw [List.pairwise_flatMap]
  constructor
  · intro row _
    rw [List.pairwise_map]
    exact List.pairwise_lt_range.imp fun h => .inr ⟨rfl, h⟩
  · refine List.pairwise_lt_range.imp ?_
    intro row row' earlier a ha b hb
    obtain ⟨col, -, rfl⟩ := List.mem_map.1 ha
    obtain ⟨col', -, rfl⟩ := List.mem_map.1 hb
    exact .inl earlier

theorem pairwise_differences (a b : Grid) : (a.differences b).Pairwise ReadBefore :=
  (pairwise_coordinates a).filter _

end Grid

theorem isNext_check_iff {current target : Grid} :
    (check current target).isNext = true ↔ target = current.next := by
  simp only [check, Grid.sameState_iff]
  exact eq_comm

theorem isNext_check_iff_follows {current target : Grid} :
    (check current target).isNext = true ↔ target.Follows current :=
  isNext_check_iff.trans Grid.follows_iff.symm

theorem isNext_check_of_not_follows {current target : Grid} (negative : ¬ target.Follows current) :
    (check current target).isNext = false := by
  rw [← Bool.not_eq_true, isNext_check_iff_follows]
  exact negative

theorem mismatches_check {current target : Grid} (negative : ¬ target.Follows current)
    (size : target.SameSize current) :
    (check current target).mismatches = current.next.differences target := by
  have different : ¬ current.next.sameState target = true := fun same =>
    negative (isNext_check_iff_follows.1 same)
  have comparable : current.next.SameSize target := size.symm
  simp [check, different, comparable]

theorem mismatches_check_of_not_sameSize {current target : Grid}
    (size : ¬ target.SameSize current) : (check current target).mismatches = [] := by
  have incomparable : ¬ current.next.SameSize target := fun same => size same.symm
  simp [check, incomparable]

end GameOfLife

import GameOfLife.Proofs.Verdict

/-!
The mismatches of a verdict as a repair. Flipping cells of a grid leads to another grid of its size in
exactly one way, namely at the places where the two differ. These are the places that a verdict lists,
so flipping them makes its target the next generation, and no other choice does.
-/

set_option autoImplicit false
set_option relaxedAutoImplicit false

namespace GameOfLife

def Cell.flip : Cell → Cell
  | .dead => .alive
  | .alive => .dead

private theorem Cell.flip_eq_iff {a b : Cell} : a.flip = b ↔ a ≠ b := by
  cases a <;> cases b <;> simp [flip]

namespace Grid

def inside (g : Grid) : Finset (Nat × Nat) :=
  Finset.range g.height ×ˢ Finset.range g.width

def flip (g : Grid) (places : Finset (Nat × Nat)) : Grid :=
  ofFn g.width g.height g.width_pos g.height_pos fun row col =>
    let cell := (g.get? row col).getD .dead
    if (row, col) ∈ places then cell.flip else cell

/-- The places inside a grid at which another grid holds something else. -/
def disagreements (a b : Grid) : Finset (Nat × Nat) :=
  a.inside.filter fun place => a.get? place.1 place.2 ≠ b.get? place.1 place.2

theorem mem_inside {g : Grid} {row col : Nat} :
    (row, col) ∈ g.inside ↔ row < g.height ∧ col < g.width := by
  rw [inside, Finset.mem_product, Finset.mem_range, Finset.mem_range]

theorem mem_disagreements {a b : Grid} {row col : Nat} :
    (row, col) ∈ a.disagreements b ↔
      (row < a.height ∧ col < a.width) ∧ a.get? row col ≠ b.get? row col := by
  rw [disagreements, Finset.mem_filter, mem_inside]

private theorem get?_flip {g : Grid} {places : Finset (Nat × Nat)} {row col : Nat} {cell : Cell}
    (h : g.get? row col = some cell) :
    (g.flip places).get? row col = some (if (row, col) ∈ places then cell.flip else cell) := by
  have place : row < g.height ∧ col < g.width := isSome_get?.1 (by rw [h]; rfl)
  rw [flip, get?_ofFn, if_pos place, h, Option.getD_some]

/-- Whatever is flipped, the two grids differ at just these places. -/
theorem disagreements_flip {g : Grid} {places : Finset (Nat × Nat)} (within : places ⊆ g.inside) :
    g.disagreements (g.flip places) = places := by
  ext ⟨row, col⟩
  rw [mem_disagreements]
  constructor
  · rintro ⟨place, differ⟩
    obtain ⟨cell, hcell⟩ := Option.isSome_iff_exists.1 (isSome_get?.2 place)
    by_contra kept
    rw [get?_flip hcell, if_neg kept] at differ
    exact differ hcell
  · intro member
    have place := mem_inside.1 (within member)
    obtain ⟨cell, hcell⟩ := Option.isSome_iff_exists.1 (isSome_get?.2 place)
    refine ⟨place, ?_⟩
    rw [get?_flip hcell, if_pos member, hcell, ne_eq, Option.some.injEq]
    exact Cell.flip_eq_iff.1 rfl

theorem flip_disagreements {a b : Grid} (size : a.SameSize b) : a.flip (a.disagreements b) = b := by
  refine ext_get? size ?_
  intro row col hrow hcol
  obtain ⟨cell, hcell⟩ := Option.isSome_iff_exists.1
    (isSome_get?.2 ⟨hrow, hcol⟩ : (a.get? row col).isSome = true)
  obtain ⟨cell', hcell'⟩ := Option.isSome_iff_exists.1
    (isSome_get?.2 ⟨size.2 ▸ hrow, size.1 ▸ hcol⟩ : (b.get? row col).isSome = true)
  have place : row < a.height ∧ col < a.width := ⟨hrow, hcol⟩
  have listed : (row, col) ∈ a.disagreements b ↔ cell ≠ cell' := by
    rw [mem_disagreements, and_iff_right place, hcell, hcell', ne_eq, Option.some.injEq]
  rw [get?_flip hcell, hcell']
  split
  · next member => rw [Cell.flip_eq_iff.2 (listed.1 member)]
  · next kept => rw [not_not.1 fun differ => kept (listed.2 differ)]

private theorem flip_eq_iff {a b : Grid} {places : Finset (Nat × Nat)} (size : a.SameSize b)
    (within : places ⊆ a.inside) : a.flip places = b ↔ places = a.disagreements b := by
  constructor
  · rintro rfl
    exact (disagreements_flip within).symm
  · rintro rfl
    exact flip_disagreements size

private theorem toFinset_differences {a b : Grid} (size : b.SameSize a) :
    (a.differences b).toFinset = b.disagreements a := by
  ext ⟨row, col⟩
  rw [List.mem_toFinset, mem_differences, mem_disagreements, size.1, size.2, ne_comm]

theorem nodup_differences (a b : Grid) : (a.differences b).Nodup :=
  (pairwise_differences a b).imp ReadBefore.ne

end Grid

section Check

variable {current target : Grid}

theorem mismatches_check_of_sameSize (size : target.SameSize current.next) :
    (check current target).mismatches = current.next.differences target := by
  by_cases follows : target.Follows current
  · -- A positive verdict lists nothing, and there is nothing to list.
    obtain rfl := Grid.follows_iff.1 follows
    have same : current.next.sameState current.next = true := Grid.sameState_iff.2 rfl
    simp [check, same, Grid.differences]
  · exact mismatches_check follows size

theorem toFinset_mismatches_check (size : target.SameSize current.next) :
    (check current target).mismatches.toFinset = target.disagreements current.next := by
  rw [mismatches_check_of_sameSize size, Grid.toFinset_differences size]

theorem isNext_check_iff_nil : (check current target).isNext = true ↔
    target.SameSize current.next ∧ (check current target).mismatches = [] := by
  rw [isNext_check_iff]
  constructor
  · rintro rfl
    have size : current.next.SameSize current.next := ⟨rfl, rfl⟩
    refine ⟨size, ?_⟩
    rw [mismatches_check_of_sameSize size]
    simp [Grid.differences]
  · rintro ⟨size, none⟩
    by_contra differ
    rw [mismatches_check_of_sameSize size] at none
    exact Grid.differences_ne_nil size.symm (fun same => differ same.symm) none

theorem pairwise_mismatches_check : (check current target).mismatches.Pairwise ReadBefore := by
  by_cases size : target.SameSize current.next
  · rw [mismatches_check_of_sameSize size]
    exact Grid.pairwise_differences _ _
  · have unlisted : (check current target).mismatches = [] := mismatches_check_of_not_sameSize size
    rw [unlisted]
    exact .nil

end Check

/-- What a verdict on `target` as the next generation of `current` says: whether it is that
generation, and otherwise, if it has its size, which cells have to be flipped. -/
structure Verdict.Exact (verdict : Verdict) (current target : Grid) : Prop where
  successor : verdict.successor = current.next
  isNext_iff : verdict.isNext = true ↔ target = current.next
  isNext_iff_nil :
    verdict.isNext = true ↔ target.SameSize current.next ∧ verdict.mismatches = []
  otherSize : ¬ target.SameSize current.next → verdict.mismatches = [] ∧ verdict.isNext = false
  ordered : verdict.mismatches.Pairwise ReadBefore
  mem_mismatches : target.SameSize current.next → ∀ row col, (row, col) ∈ verdict.mismatches ↔
    (row < target.height ∧ col < target.width) ∧ target.get? row col ≠ current.next.get? row col
  length_mismatches : target.SameSize current.next →
    verdict.mismatches.length = (target.disagreements current.next).card
  repair : target.SameSize current.next →
    target.flip verdict.mismatches.toFinset = current.next ∧
      (check current (target.flip verdict.mismatches.toFinset)).isNext = true
  only : target.SameSize current.next → ∀ places ⊆ target.inside,
    places ≠ verdict.mismatches.toFinset → (check current (target.flip places)).isNext = false

/-- Every verdict is exact, and its mismatches are the one way to repair the target. -/
theorem exact_check (current target : Grid) : (check current target).Exact current target where
  successor := rfl
  isNext_iff := isNext_check_iff
  isNext_iff_nil := isNext_check_iff_nil
  otherSize size := by
    refine ⟨mismatches_check_of_not_sameSize size, ?_⟩
    rw [← Bool.not_eq_true, isNext_check_iff_nil]
    exact fun positive => size positive.1
  ordered := pairwise_mismatches_check
  mem_mismatches size row col := by
    rw [← List.mem_toFinset, toFinset_mismatches_check size, Grid.mem_disagreements]
  length_mismatches size := by
    have nodup : (check current target).mismatches.Nodup := by
      rw [mismatches_check_of_sameSize size]
      exact Grid.nodup_differences _ _
    rw [← toFinset_mismatches_check size, List.toFinset_card_of_nodup nodup]
  repair size := by
    have repaired : target.flip (check current target).mismatches.toFinset = current.next := by
      rw [toFinset_mismatches_check size, Grid.flip_disagreements size]
    exact ⟨repaired, isNext_check_iff.2 repaired⟩
  only size places within other := by
    rw [← Bool.not_eq_true, isNext_check_iff, Grid.flip_eq_iff size within,
      ← toFinset_mismatches_check size]
    exact other

end GameOfLife

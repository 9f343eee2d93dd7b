import GameOfLife.Proofs.Grid.Representation
import GameOfLife.Proofs.SpeedOfLight
import Mathlib.Algebra.Group.Action.Defs
import Mathlib.Combinatorics.Enumerative.DoubleCounting

/-!
How many cells are alive. A birth takes three live neighbours and a survival two, and no live cell is beside
more than eight others, so one generation has at most four times the population of the one before. Two live
cells are never enough for anything.
-/

set_option autoImplicit false
set_option relaxedAutoImplicit false

namespace GameOfLife

namespace Plane

section Counting

variable {live next : Finset Point} {p : Point}

private theorem card_around_le (live : Finset Point) (p : Point) : (around live p).card ≤ 8 := by
  let places := neighborOffsets.map fun offset => (p.1 + offset.1, p.2 + offset.2)
  have within : around live p ⊆ places.toFinset := by
    intro q member
    rw [List.mem_toFinset, Grid.mem_map_neighborOffsets]
    exact (Finset.mem_filter.1 member).2
  calc (around live p).card
      ≤ places.toFinset.card := Finset.card_le_card within
    _ ≤ places.length := places.toFinset_card_le
    _ = 8 := rfl

/-- Pairs of a point that lives and a live point beside it, counted from both sides. -/
theorem sum_card_around (live next : Finset Point) :
    ∑ p ∈ next, (around live p).card = ∑ q ∈ live, (around next q).card := by
  have swapped : ∀ q, around next q = next.filter fun p => distance p q = 1 := by
    intro q
    simp only [around, distance_comm q]
  simp only [swapped]
  exact Finset.sum_card_bipartiteAbove_eq_sum_card_bipartiteBelow fun p q => distance p q = 1

/-- Every birth uses three live neighbours and every survival two, and each live point can be used by the
eight around it. -/
theorem three_mul_births_add_le (lives : ∀ p ∈ next, Lives live p) :
    3 * (next \ live).card + 2 * (next ∩ live).card ≤ 8 * live.card := by
  have births : ∀ p ∈ next \ live, 3 ≤ (around live p).card := by
    intro p member
    obtain ⟨inNext, dead⟩ := Finset.mem_sdiff.1 member
    rcases lives p inNext with born | ⟨-, alive⟩
    · exact born.ge
    · exact absurd alive dead
  have survivals : ∀ p ∈ next ∩ live, 2 ≤ (around live p).card := by
    intro p member
    rcases lives p (Finset.mem_inter.1 member).1 with kept | ⟨kept, -⟩ <;> omega
  calc 3 * (next \ live).card + 2 * (next ∩ live).card
      ≤ ∑ p ∈ next \ live, (around live p).card + ∑ p ∈ next ∩ live, (around live p).card := by
        refine Nat.add_le_add ?_ ?_
        · rw [Nat.mul_comm, ← smul_eq_mul]
          exact Finset.card_nsmul_le_sum _ _ 3 births
        · rw [Nat.mul_comm, ← smul_eq_mul]
          exact Finset.card_nsmul_le_sum _ _ 2 survivals
    _ = ∑ p ∈ next, (around live p).card := by
        rw [Nat.add_comm]
        exact Finset.sum_inter_add_sum_sdiff next live _
    _ = ∑ q ∈ live, (around next q).card := sum_card_around live next
    _ ≤ 8 * live.card := by
        rw [Nat.mul_comm, ← smul_eq_mul]
        exact Finset.sum_le_card_nsmul live _ 8 fun q _ => card_around_le next q

private theorem not_lives_of_card_le_two (few : live.card ≤ 2) : ¬ Lives live p := by
  rintro (born | ⟨kept, alive⟩)
  · have less : (around live p).card ≤ live.card := Finset.card_le_card (Finset.filter_subset _ live)
    omega
  · have others : around live p ⊆ live.erase p := by
      intro q member
      obtain ⟨alive', beside⟩ := Finset.mem_filter.1 member
      refine Finset.mem_erase.2 ⟨?_, alive'⟩
      rintro rfl
      rw [distance_self] at beside
      exact Nat.zero_ne_one beside
    have less := Finset.card_le_card others
    rw [Finset.card_erase_of_mem alive] at less
    omega

end Counting

end Plane

namespace Grid

open Plane

def births (g : Grid) : Nat :=
  g.coordinates.countP fun place =>
    g.get? place.1 place.2 = some .dead ∧ g.next.get? place.1 place.2 = some .alive

def survivals (g : Grid) : Nat :=
  g.coordinates.countP fun place =>
    g.get? place.1 place.2 = some .alive ∧ g.next.get? place.1 place.2 = some .alive

section Counts

variable {g : Grid}

private theorem countP_coordinates (g : Grid) {holds : Nat × Nat → Bool} {points : Finset Point}
    (same : ∀ row col : Nat, row < g.height → col < g.width →
      (holds (row, col) = true ↔ ((row : Int), (col : Int)) ∈ points)) (within : points ⊆ g.frame) :
    g.coordinates.countP holds = points.card := by
  have cast : Function.Injective fun place : Nat × Nat => ((place.1 : Int), (place.2 : Int)) := by
    intro a b h
    simp only [Prod.mk.injEq, Int.natCast_inj] at h
    exact Prod.ext h.1 h.2
  rw [List.countP_eq_length_filter, ← List.toFinset_card_of_nodup ((nodup_coordinates g).filter holds),
    ← Finset.card_image_of_injective _ cast]
  congr 1
  ext p
  rw [Finset.mem_image]
  constructor
  · rintro ⟨⟨row, col⟩, member, rfl⟩
    rw [List.mem_toFinset, List.mem_filter, mem_coordinates] at member
    exact (same row col member.1.1 member.1.2).1 member.2
  · intro member
    obtain ⟨row, col, rfl, hrow, hcol⟩ := exists_natCast_of_mem_frame (within member)
    refine ⟨(row, col), ?_, rfl⟩
    rw [List.mem_toFinset, List.mem_filter, mem_coordinates]
    exact ⟨⟨hrow, hcol⟩, (same row col hrow hcol).2 member⟩

theorem population_eq_card_livePoints (g : Grid) : g.population = g.livePoints.card := by
  rw [population_eq_countP]
  refine countP_coordinates g ?_ (Finset.filter_subset _ _)
  intro row col _ _
  rw [decide_eq_true_eq, mem_livePoints_natCast]

private theorem frame_next (g : Grid) : g.next.frame = g.frame := rfl

private theorem births_eq_card (g : Grid) : g.births = (g.next.livePoints \ g.livePoints).card := by
  refine countP_coordinates g ?_ ?_
  · intro row col hrow hcol
    obtain ⟨cell, hcell⟩ := exists_get?_iff.2 ⟨hrow, hcol⟩
    rw [decide_eq_true_eq, Finset.mem_sdiff, mem_livePoints_natCast, mem_livePoints_natCast, hcell]
    cases cell <;> simp
  · exact Finset.sdiff_subset.trans (frame_next g ▸ Finset.filter_subset _ _)

private theorem survivals_eq_card (g : Grid) : g.survivals = (g.next.livePoints ∩ g.livePoints).card := by
  refine countP_coordinates g ?_ ?_
  · intro row col _ _
    rw [decide_eq_true_eq, Finset.mem_inter, mem_livePoints_natCast, mem_livePoints_natCast, and_comm]
  · exact Finset.inter_subset_right.trans (Finset.filter_subset _ _)

private theorem population_next_le (g : Grid) : g.next.population ≤ 4 * g.population := by
  have bound := three_mul_births_add_le fun p => lives_of_mem_livePoints_next (g := g) (p := p)
  have split := Finset.card_sdiff_add_card_inter g.next.livePoints g.livePoints
  rw [population_eq_card_livePoints, population_eq_card_livePoints]
  omega

private theorem population_after_le (g : Grid) (n : Nat) : (g.after n).population ≤ 4 ^ n * g.population := by
  induction n generalizing g with
  | zero => exact Nat.le_of_eq (Nat.one_mul _).symm
  | succ n ih =>
    calc (g.next.after n).population
        ≤ 4 ^ n * g.next.population := ih g.next
      _ ≤ 4 ^ n * (4 * g.population) := Nat.mul_le_mul_left _ (population_next_le g)
      _ = 4 ^ (n + 1) * g.population := by rw [Nat.pow_succ, Nat.mul_assoc]

private theorem population_next_eq_zero (few : g.population ≤ 2) : g.next.population = 0 := by
  rw [population_eq_card_livePoints] at few
  rw [population_eq_card_livePoints, Finset.card_eq_zero, Finset.eq_empty_iff_forall_notMem]
  exact fun p alive => not_lives_of_card_le_two few (lives_of_mem_livePoints_next alive)

private theorem population_after_eq_zero (few : g.population ≤ 2) (n : Nat) :
    (g.after (n + 1)).population = 0 := by
  induction n generalizing g with
  | zero => exact population_next_eq_zero few
  | succ n ih =>
    have none : g.next.population = 0 := population_next_eq_zero few
    exact ih (by omega)

end Counts

/-- How the population changes in one generation: births and survivals make up the next one, three times the
births and twice the survivals are at most eight times the population, so that it grows to four times its
size at most, and from two live cells or fewer nothing ever comes. -/
theorem population_laws (g : Grid) :
    g.next.population = g.births + g.survivals ∧
    3 * g.births + 2 * g.survivals ≤ 8 * g.population ∧
    g.next.population ≤ 4 * g.population ∧
    (∀ n, (g.after n).population ≤ 4 ^ n * g.population) ∧
    (g.population ≤ 2 → ∀ n, (g.after (n + 1)).population = 0) := by
  refine ⟨?_, ?_, population_next_le g, population_after_le g, population_after_eq_zero⟩
  · rw [population_eq_card_livePoints, births_eq_card, survivals_eq_card,
      Finset.card_sdiff_add_card_inter]
  · rw [population_eq_card_livePoints, births_eq_card, survivals_eq_card]
    exact three_mul_births_add_le fun p => lives_of_mem_livePoints_next

theorem population_laws_two :
    let g := ofFn 4 3 (by decide) (by decide) fun row col => if row = 0 ∧ col < 2 then .alive else .dead
    g.population ≤ 2 ∧ (g.after 7).population = 0 := by
  intro g
  have few : g.population ≤ 2 := by decide
  obtain ⟨-, -, -, -, extinct⟩ := population_laws g
  exact ⟨few, extinct few 6⟩

/-- A column of three cells becomes a row: one of them survives, and two cells are born beside it. -/
example :
    let g := ofFn 3 3 (by decide) (by decide) fun _ col => if col = 1 then .alive else .dead
    g.births = 2 ∧ g.survivals = 1 ∧ g.population = 3 := by
  decide

end Grid

end GameOfLife

import GameOfLife.Proofs.Population

/-!
Grids that are a single row or a single column. A cell of such a strip has two neighbours and no more, so
nothing is ever born in it, and a cell goes on living only between two live ones. Every generation takes one
cell away from both ends of every run of live cells: after some generations a cell is alive exactly if all
cells were that are no farther away than there were generations, and the ends of the strip count as dead.
-/

set_option autoImplicit false
set_option relaxedAutoImplicit false

namespace GameOfLife

namespace Plane

/-- A numbering of points that lie one beside the other. -/
structure Straight (line : Int → Point) : Prop where
  distance_eq : ∀ i j, distance (line i) (line j) = (j - i).natAbs

section Line

variable {line : Int → Point} {live : Finset Point} {i : Int}

private theorem Straight.injective (straight : Straight line) : Function.Injective line := by
  intro i j same
  have nowhere : distance (line i) (line j) = 0 := by
    rw [same, distance_self]
  rw [straight.distance_eq] at nowhere
  omega

private theorem around_subset_of_straight (straight : Straight line) (onLine : ∀ p ∈ live, ∃ i, line i = p) :
    around live (line i) ⊆ {line (i - 1), line (i + 1)} := by
  intro p member
  obtain ⟨alive, beside⟩ := Finset.mem_filter.1 member
  obtain ⟨j, rfl⟩ := onLine p alive
  rw [straight.distance_eq] at beside
  have places : j = i - 1 ∨ j = i + 1 := by omega
  rw [Finset.mem_insert, Finset.mem_singleton]
  rcases places with rfl | rfl
  · exact Or.inl rfl
  · exact Or.inr rfl

private theorem mem_around_of_straight (straight : Straight line) {j : Int} (beside : (j - i).natAbs = 1) :
    line j ∈ around live (line i) ↔ line j ∈ live := by
  rw [around, Finset.mem_filter, straight.distance_eq]
  exact and_iff_left beside

private theorem card_around_eq_two_iff (straight : Straight line) (onLine : ∀ p ∈ live, ∃ i, line i = p) :
    (around live (line i)).card = 2 ↔ line (i - 1) ∈ live ∧ line (i + 1) ∈ live := by
  have different : line (i - 1) ≠ line (i + 1) := by
    intro same
    have equal := straight.injective same
    omega
  have pair : ({line (i - 1), line (i + 1)} : Finset Point).card = 2 := Finset.card_pair different
  have within := around_subset_of_straight (i := i) straight onLine
  rw [← mem_around_of_straight straight (by omega : (i - 1 - i).natAbs = 1),
    ← mem_around_of_straight straight (by omega : (i + 1 - i).natAbs = 1)]
  constructor
  · intro two
    have both := Finset.eq_of_subset_of_card_le within (by rw [pair, two])
    rw [both]
    exact ⟨Finset.mem_insert_self _ _, Finset.mem_insert_of_mem (Finset.mem_singleton_self _)⟩
  · rintro ⟨left, right⟩
    have both : {line (i - 1), line (i + 1)} ⊆ around live (line i) :=
      Finset.insert_subset left (Finset.singleton_subset_iff.2 right)
    rw [Finset.Subset.antisymm within both, pair]

private theorem lives_of_straight (straight : Straight line) (onLine : ∀ p ∈ live, ∃ i, line i = p) :
    Lives live (line i) ↔ ∀ j, (j - i).natAbs ≤ 1 → line j ∈ live := by
  have notThree : (around live (line i)).card ≠ 3 := by
    have atMost := (Finset.card_le_card (around_subset_of_straight (i := i) straight onLine)).trans
      Finset.card_le_two
    omega
  rw [Lives, card_around_eq_two_iff straight onLine]
  constructor
  · rintro (born | ⟨⟨left, right⟩, self⟩) j near
    · exact absurd born notThree
    · have places : j = i - 1 ∨ j = i ∨ j = i + 1 := by omega
      rcases places with rfl | rfl | rfl
      · exact left
      · exact self
      · exact right
  · intro near
    exact Or.inr ⟨⟨near (i - 1) (by omega), near (i + 1) (by omega)⟩, near i (by omega)⟩

end Line

end Plane

namespace Grid

open Plane

/-- A grid whose cells are the first ones of a line. -/
structure Strip (g : Grid) (line : Int → Point) (length : Nat) : Prop where
  straight : Straight line
  mem_frame_iff : ∀ p, p ∈ g.frame ↔ ∃ i : Int, (0 ≤ i ∧ i < length) ∧ line i = p

/-- What becomes of a strip of some length, in which the cell at a place is found by `cell`. -/
structure Shrinks (g : Grid) (length : Nat) (cell : Grid → Nat → Option Cell) : Prop where
  alive_iff : ∀ n i, cell (g.after n) i = some .alive ↔
    n ≤ i ∧ i + n < length ∧ ∀ j, i - n ≤ j → j ≤ i + n → cell g j = some .alive
  extinct : ∀ n, length < 2 * n + 1 → (g.after n).population = 0
  population_le : ∀ n, (g.after (n + 1)).population ≤ (g.after n).population

section Strip

variable {g : Grid} {line : Int → Point} {length n : Nat} {i : Int}

private theorem strip_of_height (single : g.height = 1) : g.Strip (fun i => (0, i)) g.width where
  straight := ⟨fun i j => by simp [distance]⟩
  mem_frame_iff := by
    intro p
    rw [mem_frame, single]
    constructor
    · rintro ⟨rows, cols⟩
      exact ⟨p.2, cols, Prod.ext (by simp only; omega) rfl⟩
    · rintro ⟨i, inside, rfl⟩
      exact ⟨by simp, inside⟩

private theorem strip_of_width (single : g.width = 1) : g.Strip (fun i => (i, 0)) g.height where
  straight := ⟨fun i j => by simp [distance]⟩
  mem_frame_iff := by
    intro p
    rw [mem_frame, single]
    constructor
    · rintro ⟨rows, cols⟩
      exact ⟨p.1, rows, Prod.ext rfl (by simp only; omega)⟩
    · rintro ⟨i, inside, rfl⟩
      exact ⟨inside, by simp⟩

private theorem Strip.of_sameSize {other : Grid} (strip : g.Strip line length) (size : other.SameSize g) :
    other.Strip line length where
  straight := strip.straight
  mem_frame_iff := by
    rw [frame_eq_of_sameSize size]
    exact strip.mem_frame_iff

private theorem Strip.after (strip : g.Strip line length) (n : Nat) : (g.after n).Strip line length :=
  strip.of_sameSize ⟨width_after g n, height_after g n⟩

private theorem Strip.exists_of_mem_livePoints (strip : g.Strip line length) :
    ∀ p ∈ g.livePoints, ∃ i, line i = p := by
  intro p alive
  obtain ⟨i, -, place⟩ := (strip.mem_frame_iff p).1 (mem_frame_of_mem_livePoints alive)
  exact ⟨i, place⟩

private theorem Strip.range_of_mem_livePoints (strip : g.Strip line length) (alive : line i ∈ g.livePoints) :
    0 ≤ i ∧ i < length := by
  obtain ⟨j, range, same⟩ := (strip.mem_frame_iff _).1 (mem_frame_of_mem_livePoints alive)
  rwa [strip.straight.injective same] at range

private theorem Strip.mem_livePoints_next (strip : g.Strip line length) :
    line i ∈ g.next.livePoints ↔ ∀ j, (j - i).natAbs ≤ 1 → line j ∈ g.livePoints := by
  rw [livePoints_next, Finset.mem_filter,
    lives_of_straight strip.straight strip.exists_of_mem_livePoints, and_iff_right_iff_imp]
  intro near
  exact mem_frame_of_mem_livePoints (near i (by omega))

/-- A point of a strip is alive after some generations if all points were that are no farther away. -/
theorem Strip.mem_livePoints_after (strip : g.Strip line length) :
    line i ∈ (g.after n).livePoints ↔ ∀ j, (j - i).natAbs ≤ n → line j ∈ g.livePoints := by
  induction n generalizing g with
  | zero =>
    constructor
    · intro alive j same
      have place : j = i := by omega
      rwa [place]
    · intro near
      exact near i (by omega)
  | succ n ih =>
    have next : g.next.Strip line length := strip.after 1
    have later : line i ∈ (g.after (n + 1)).livePoints ↔
        ∀ k, (k - i).natAbs ≤ n → line k ∈ g.next.livePoints := ih next
    rw [later]
    constructor
    · -- A point at the greatest distance is beside one that is a step nearer.
      intro alive j far
      obtain ⟨k, near, beside⟩ : ∃ k : Int, (k - i).natAbs ≤ n ∧ (j - k).natAbs ≤ 1 := by
        by_cases within : (j - i).natAbs ≤ n
        · exact ⟨j, within, by omega⟩
        · by_cases right : i < j
          · exact ⟨j - 1, by omega, by omega⟩
          · exact ⟨j + 1, by omega, by omega⟩
      exact strip.mem_livePoints_next.1 (alive k near) j beside
    · intro alive k near
      refine strip.mem_livePoints_next.2 ?_
      intro j beside
      exact alive j (by omega)

private theorem Strip.livePoints_next_subset (strip : g.Strip line length) :
    g.next.livePoints ⊆ g.livePoints := by
  intro p alive
  have next : g.next.Strip line length := strip.after 1
  obtain ⟨i, rfl⟩ := next.exists_of_mem_livePoints p alive
  exact strip.mem_livePoints_next.1 alive i (by omega)

private theorem Strip.population_after_succ_le (strip : g.Strip line length) (n : Nat) :
    (g.after (n + 1)).population ≤ (g.after n).population := by
  have step : g.after (n + 1) = (g.after n).next := after_add g n 1
  rw [step, population_eq_card_livePoints, population_eq_card_livePoints]
  exact Finset.card_le_card (strip.after n).livePoints_next_subset

private theorem Strip.population_after_eq_zero (strip : g.Strip line length) (short : length < 2 * n + 1) :
    (g.after n).population = 0 := by
  rw [population_eq_card_livePoints, Finset.card_eq_zero, Finset.eq_empty_iff_forall_notMem]
  intro p alive
  obtain ⟨i, rfl⟩ := (strip.after n).exists_of_mem_livePoints p alive
  have near := strip.mem_livePoints_after.1 alive
  have first := strip.range_of_mem_livePoints (near (i - n) (by omega))
  have last := strip.range_of_mem_livePoints (near (i + n) (by omega))
  omega

private theorem Strip.shrinks {cell : Grid → Nat → Option Cell} (strip : g.Strip line length)
    (alive_iff : ∀ (g : Grid) (i : Nat), cell g i = some .alive ↔ line i ∈ g.livePoints) :
    g.Shrinks length cell where
  alive_iff := by
    intro n i
    rw [alive_iff, strip.mem_livePoints_after]
    constructor
    · intro near
      have first := strip.range_of_mem_livePoints (near (i - n) (by omega))
      have last := strip.range_of_mem_livePoints (near (i + n) (by omega))
      refine ⟨by omega, by omega, ?_⟩
      intro j lower upper
      exact (alive_iff g j).2 (near j (by omega))
    · rintro ⟨left, right, between⟩ j near
      obtain ⟨k, rfl⟩ : ∃ k : Nat, j = k := ⟨j.toNat, by omega⟩
      exact (alive_iff g k).1 (between k (by omega) (by omega))
  extinct := fun _ short => strip.population_after_eq_zero short
  population_le := strip.population_after_succ_le

end Strip

/-- The generations of a single row, and likewise of a single column, in closed form: a cell is alive after some
generations exactly if the strip reaches as far on both sides of it as there were generations, and all the cells
up to there were alive. So nothing is left once the generations exceed half the length, and until then the
population never grows. -/
theorem shrinks_of_single (g : Grid) :
    (g.height = 1 → g.Shrinks g.width fun g col => g.get? 0 col) ∧
    (g.width = 1 → g.Shrinks g.height fun g row => g.get? row 0) := by
  constructor
  · intro single
    refine (strip_of_height single).shrinks ?_
    intro g col
    exact mem_livePoints_natCast.symm
  · intro single
    refine (strip_of_width single).shrinks ?_
    intro g row
    exact mem_livePoints_natCast.symm

theorem shrinks_of_single_row :
    let row := ofFn 7 1 (by decide) (by decide) fun _ col => if col = 0 then .dead else .alive
    row.height = 1 ∧ (row.after 2).get? 0 3 = some .alive ∧ (row.after 2).get? 0 2 ≠ some .alive ∧
      (row.after 4).population = 0 := by
  intro row
  have single : row.height = 1 := rfl
  obtain ⟨alive_iff, extinct, -⟩ := (shrinks_of_single row).1 single
  refine ⟨single, (alive_iff 2 3).2 ⟨by decide, by decide, ?_⟩, ?_, extinct 4 (by decide)⟩
  · intro col lower upper
    have inside : col < 7 ∧ col ≠ 0 := by omega
    simp [row, get?_ofFn, inside]
  · intro alive
    have first := ((alive_iff 2 2).1 alive).2.2 0 (by decide) (by decide)
    exact absurd first (by decide)

end Grid

end GameOfLife

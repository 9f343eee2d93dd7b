import GameOfLife.Proofs.Grid.Words
import GameOfLife.Proofs.Plane

/-!
The neighbours of a coordinate that is given in words. A word counts as the signed number that it stands
for, so that there are coordinates in front of the grid and behind it as well. The count in signed words,
with a bounds test for each of the eight cells, is the number of live points at distance one.
-/

set_option autoImplicit false
set_option relaxedAutoImplicit false

namespace GameOfLife.Grid

open Plane

def wordOffsets : List (Int64 × Int64) :=
  [(-1, -1), (-1, 0), (-1, 1), (0, -1), (0, 1), (1, -1), (1, 0), (1, 1)]

/-- Counts the cell at a displacement from a coordinate, unless it is dead or outside the grid. -/
def countAtWords? (g : Grid) (row col : UInt64) (count : Nat) (offset : Int64 × Int64) : Option Nat := do
  let row ← Word.signedSum? row.toInt64 offset.1
  let col ← Word.signedSum? col.toInt64 offset.2
  if row < 0 ∨ (UInt64.ofNat g.height).toInt64 ≤ row ∨
      col < 0 ∨ (UInt64.ofNat g.width).toInt64 ≤ col then
    return count
  else
    let cell ← g.getAtWords? row.toUInt64 col.toUInt64
    return if cell = some .alive then count + 1 else count

/-- The live neighbours of a coordinate of words, counted with word arithmetic. -/
def liveNeighborsAtWords? (g : Grid) (row col : UInt64) : Option Nat :=
  wordOffsets.foldlM (g.countAtWords? row col) 0

def liveInRow (g : Grid) (row col : Int) : Finset Point :=
  g.livePoints.filter fun q => q.1 = row ∧ (q.2 - col).natAbs ≤ 1

def liveInCol (g : Grid) (row col : Int) : Finset Point :=
  g.livePoints.filter fun q => (q.1 - row).natAbs ≤ 1 ∧ q.2 = col

private theorem neighborOffsets_eq_map :
    neighborOffsets = wordOffsets.map fun offset => (offset.1.toInt, offset.2.toInt) := by
  decide

private theorem small_of_mem_wordOffsets {offset : Int64 × Int64} (member : offset ∈ wordOffsets) :
    (-1 ≤ offset.1.toInt ∧ offset.1.toInt ≤ 1) ∧ -1 ≤ offset.2.toInt ∧ offset.2.toInt ≤ 1 := by
  simp only [wordOffsets, List.mem_cons, List.not_mem_nil, or_false] at member
  rcases member with rfl | rfl | rfl | rfl | rfl | rfl | rfl | rfl <;> decide

private theorem foldlM_count {α : Type} {count : Nat → α → Option Nat} {counted : α → Bool} {xs : List α}
    (each : ∀ n, ∀ x ∈ xs, count n x = some (n + if counted x then 1 else 0)) (n : Nat) :
    xs.foldlM count n = some (n + xs.countP counted) := by
  induction xs generalizing n with
  | nil => rfl
  | cons x xs ih =>
    rw [List.foldlM_cons, each n x List.mem_cons_self, Option.bind_eq_bind, Option.bind_some,
      ih fun m y member => each m y (List.mem_cons_of_mem x member), List.countP_cons]
    congr 1
    omega

section Machine

variable {g : Grid} (storable : g.Storable)

include storable

private theorem signed_of_eq_height {row : UInt64} (h : row.toNat = g.height) : Word.signed row = g.height := by
  rw [← h]
  exact Word.signed_of_lt (h ▸ height_lt storable)

private theorem signed_of_eq_width {col : UInt64} (h : col.toNat = g.width) : Word.signed col = g.width := by
  rw [← h]
  exact Word.signed_of_lt (h ▸ width_lt storable)

private theorem toInt_height : (UInt64.ofNat g.height).toInt64.toInt = g.height := by
  rw [Word.toInt_toInt64, signed_of_eq_height storable (toNat_ofNat_height storable)]

private theorem toInt_width : (UInt64.ofNat g.width).toInt64.toInt = g.width := by
  rw [Word.toInt_toInt64, signed_of_eq_width storable (toNat_ofNat_width storable)]

private theorem outside_words_iff {row col : Int64} :
    (row < 0 ∨ (UInt64.ofNat g.height).toInt64 ≤ row ∨
      col < 0 ∨ (UInt64.ofNat g.width).toInt64 ≤ col) ↔ (row.toInt, col.toInt) ∉ g.frame := by
  rw [Int64.lt_iff_toInt_lt, Int64.le_iff_toInt_le, Int64.lt_iff_toInt_lt, Int64.le_iff_toInt_le,
    toInt_height storable, toInt_width storable, Int64.toInt_zero, mem_frame]
  omega

private theorem countAtWords?_eq {row col : UInt64} {offset : Int64 × Int64} {count : Nat}
    (rows : Word.IsSigned (Word.signed row + offset.1.toInt))
    (cols : Word.IsSigned (Word.signed col + offset.2.toInt)) :
    g.countAtWords? row col count offset =
      some (count + if g.aliveAt (Word.signed row + offset.1.toInt)
        (Word.signed col + offset.2.toInt) then 1 else 0) := by
  rw [← Word.toInt_toInt64] at rows cols
  obtain ⟨r, hr, atRow⟩ := Word.exists_signedSum? rows
  obtain ⟨c, hc, atCol⟩ := Word.exists_signedSum? cols
  rw [Word.toInt_toInt64] at atRow atCol
  have alive : (r.toInt, c.toInt) ∈ g.livePoints ↔ g.aliveAt r.toInt c.toInt = true :=
    mem_livePoints_iff_aliveAt
  rw [countAtWords?, hr, ← atRow, ← atCol]
  simp only [Option.bind_eq_bind, Option.bind_some, hc]
  by_cases inside : (r.toInt, c.toInt) ∈ g.frame
  · rw [if_neg (by rw [outside_words_iff storable]; exact not_not_intro inside)]
    obtain ⟨i, j, place, -⟩ := exists_natCast_of_mem_frame inside
    rw [place, mem_livePoints_natCast] at alive
    simp only [Prod.mk.injEq] at place
    rw [getAtWords?_eq storable, Word.toNat_toUInt64 place.1, Word.toNat_toUInt64 place.2]
    simp only [Option.bind_some, alive]
    split <;> rfl
  · have dead : ¬ g.aliveAt r.toInt c.toInt = true := by
      rw [← alive]
      exact fun member => inside (mem_frame_of_mem_livePoints member)
    rw [if_pos ((outside_words_iff storable).2 inside), if_neg dead]
    rfl

/-- No sum leaves the signed words, and the machine counts what there is. -/
theorem liveNeighborsAtWords?_eq {row col : UInt64}
    (hrow : row.toNat ≠ 2 ^ 63 - 1 ∧ row.toNat ≠ 2 ^ 63)
    (hcol : col.toNat ≠ 2 ^ 63 - 1 ∧ col.toNat ≠ 2 ^ 63) :
    g.liveNeighborsAtWords? row col = some (g.liveNeighborsAtWord row col) := by
  have each : ∀ n, ∀ offset ∈ wordOffsets, g.countAtWords? row col n offset =
      some (n + if g.aliveAt (Word.signed row + offset.1.toInt)
        (Word.signed col + offset.2.toInt) then 1 else 0) := by
    intro n offset member
    obtain ⟨rows, cols⟩ := small_of_mem_wordOffsets member
    exact countAtWords?_eq storable (Word.isSigned_signed_add hrow rows)
      (Word.isSigned_signed_add hcol cols)
  rw [liveNeighborsAtWords?, foldlM_count each, Nat.zero_add, liveNeighborsAtWord, liveNeighbors,
    neighborOffsets_eq_map, List.countP_map, Word.toInt_toInt64, Word.toInt_toInt64]
  rfl

end Machine

section Ring

variable {g : Grid} {p : Point}

private theorem around_eq_empty_of_far
    (far : p.1 < -1 ∨ g.height < p.1 ∨ p.2 < -1 ∨ g.width < p.2) : around g.livePoints p = ∅ := by
  refine Finset.filter_eq_empty_iff.2 ?_
  intro q alive beside
  have inside := mem_frame.1 (mem_frame_of_mem_livePoints alive)
  simp only [distance] at beside
  omega

private theorem around_beside_row {i : Int} (edge : p.1 = -1 ∧ i = 0 ∨ p.1 = g.height ∧ i = g.height - 1) :
    around g.livePoints p = g.liveInRow i p.2 := by
  refine Finset.filter_congr ?_
  intro q alive
  have inside := mem_frame.1 (mem_frame_of_mem_livePoints alive)
  simp only [distance]
  omega

private theorem around_beside_col {j : Int} (edge : p.2 = -1 ∧ j = 0 ∨ p.2 = g.width ∧ j = g.width - 1) :
    around g.livePoints p = g.liveInCol p.1 j := by
  refine Finset.filter_congr ?_
  intro q alive
  have inside := mem_frame.1 (mem_frame_of_mem_livePoints alive)
  simp only [distance]
  omega

private theorem liveNeighborsAtWord_eq_card (g : Grid) (row col : UInt64) :
    g.liveNeighborsAtWord row col =
      (around g.livePoints (Word.signed row, Word.signed col)).card := by
  rw [liveNeighborsAtWord, Word.toInt_toInt64, Word.toInt_toInt64]
  exact liveNeighbors_eq_card g (Word.signed row, Word.signed col)

private theorem around_congr {live live' : Finset Point}
    (same : ∀ q, q ≠ p → (q ∈ live ↔ q ∈ live')) : around live p = around live' p := by
  ext q
  rw [around, around, Finset.mem_filter, Finset.mem_filter, and_congr_left_iff]
  intro beside
  refine same q ?_
  rintro rfl
  simp [distance] at beside

end Ring

/-- The neighbours counted for a coordinate of words are the live cells at distance one from it, each word
read as a signed number. No sum leaves the signed words; far outside the grid there is nothing to count,
one step outside there are the cells of the nearest row or column, and the cell at the coordinate itself
makes no difference. -/
theorem liveNeighborsAtWord_ring (g : Grid) {row col : UInt64}
    (hrow : row.toNat ≠ 2 ^ 63 - 1 ∧ row.toNat ≠ 2 ^ 63)
    (hcol : col.toNat ≠ 2 ^ 63 - 1 ∧ col.toNat ≠ 2 ^ 63) :
    let i := Word.signed row
    let j := Word.signed col
    let count := g.liveNeighborsAtWord row col
    count = (g.livePoints.filter fun q => max (q.1 - i).natAbs (q.2 - j).natAbs = 1).card ∧
    (∀ step : Int, -1 ≤ step ∧ step ≤ 1 → Word.IsSigned (i + step) ∧ Word.IsSigned (j + step)) ∧
    (g.Storable → g.liveNeighborsAtWords? row col = some count) ∧
    (i < -1 ∨ g.height < i ∨ j < -1 ∨ g.width < j → count = 0) ∧
    (row.toNat = 2 ^ 64 - 1 → count = (g.liveInRow 0 j).card) ∧
    (g.Storable → row.toNat = g.height → count = (g.liveInRow (g.height - 1) j).card) ∧
    (col.toNat = 2 ^ 64 - 1 → count = (g.liveInCol i 0).card) ∧
    (g.Storable → col.toNat = g.width → count = (g.liveInCol i (g.width - 1)).card) ∧
    ∀ other : Grid, (∀ r c : Nat, ((r : Int), (c : Int)) ≠ (i, j) → g.get? r c = other.get? r c) →
      other.liveNeighborsAtWord row col = count := by
  intro i j count
  have ring : count = (around g.livePoints (i, j)).card := liveNeighborsAtWord_eq_card g row col
  refine ⟨ring, ?_, fun storable => liveNeighborsAtWords?_eq storable hrow hcol, ?_, ?_, ?_, ?_, ?_, ?_⟩
  · intro step small
    exact ⟨Word.isSigned_signed_add hrow small, Word.isSigned_signed_add hcol small⟩
  · intro far
    rw [ring, around_eq_empty_of_far far, Finset.card_empty]
  · intro last
    rw [ring, around_beside_row (.inl ⟨Word.signed_of_last last, rfl⟩)]
  · intro storable behind
    rw [ring, around_beside_row (.inr ⟨signed_of_eq_height storable behind, rfl⟩)]
  · intro last
    rw [ring, around_beside_col (.inl ⟨Word.signed_of_last last, rfl⟩)]
  · intro storable behind
    rw [ring, around_beside_col (.inr ⟨signed_of_eq_width storable behind, rfl⟩)]
  · intro other same
    rw [ring, liveNeighborsAtWord_eq_card other]
    refine congrArg Finset.card (around_congr ?_).symm
    intro q elsewhere
    refine mem_livePoints_congr ?_
    rintro r c rfl
    exact same r c elsewhere

theorem liveNeighborsAtWord_ring_corner :
    let g := ofFn 3 2 (by decide) (by decide) fun _ _ => .alive
    g.Storable ∧ g.liveNeighborsAtWords? 18446744073709551615 3 = some 1 ∧
      g.liveNeighborsAtWord 18446744073709551615 3 = (g.liveInCol (-1) (3 - 1)).card := by
  intro g
  have storable : g.Storable := by
    simp [g, Storable, ofFn]
  have hrow : (18446744073709551615 : UInt64).toNat ≠ 2 ^ 63 - 1 ∧
      (18446744073709551615 : UInt64).toNat ≠ 2 ^ 63 := by
    decide
  have hcol : (3 : UInt64).toNat ≠ 2 ^ 63 - 1 ∧ (3 : UInt64).toNat ≠ 2 ^ 63 := by
    decide
  obtain ⟨-, -, machine, -, -, -, -, behind, -⟩ := liveNeighborsAtWord_ring g hrow hcol
  refine ⟨storable, ?_, ?_⟩
  · rw [machine storable]
    decide
  · exact behind storable (by decide)

/-- At the largest signed number there is no row behind, so the count has no result. -/
example :
    (ofFn 1 1 (by decide) (by decide) fun _ _ => .alive).liveNeighborsAtWords? 9223372036854775807 0 =
      none := by
  decide

end GameOfLife.Grid

import GameOfLife.Grid.Lemmas
import GameOfLife.Grid.Neighborhood
import GameOfLife.Proofs.Word

/-!
Grids on a machine of 64-bit words. A sum or product that is not a word is no result there, so a look-up
may fail; it never does for a grid whose cells fit into one vector, and then it finds what the grid holds.
-/

set_option autoImplicit false
set_option relaxedAutoImplicit false

namespace GameOfLife

namespace Grid

/-- Whether the cells fit into one vector, which has at most 2^63 - 1 places. -/
def Storable (g : Grid) : Prop :=
  g.cells.size < 2 ^ 63

/-- The cell at a coordinate, its place in the vector computed in words. -/
def getAtWords? (g : Grid) (row col : UInt64) : Option (Option Cell) :=
  if .ofNat g.height ≤ row ∨ .ofNat g.width ≤ col then some none
  else do
    let start ← Word.product? row (.ofNat g.width)
    let place ← Word.sum? start col
    return g.cells[place.toNat]?

section Storable

variable {g : Grid} (storable : g.Storable)

include storable

theorem height_mul_width_lt : g.height * g.width < 2 ^ 63 := by
  rw [← g.size_cells]
  exact storable

theorem height_lt : g.height < 2 ^ 63 :=
  Nat.lt_of_le_of_lt (Nat.le_mul_of_pos_right _ g.width_pos) (height_mul_width_lt storable)

theorem width_lt : g.width < 2 ^ 63 :=
  Nat.lt_of_le_of_lt (Nat.le_mul_of_pos_left _ g.height_pos) (height_mul_width_lt storable)

theorem toNat_ofNat_height : (UInt64.ofNat g.height).toNat = g.height :=
  UInt64.toNat_ofNat_of_lt' (Nat.lt_trans (height_lt storable) (by decide))

theorem toNat_ofNat_width : (UInt64.ofNat g.width).toNat = g.width :=
  UInt64.toNat_ofNat_of_lt' (Nat.lt_trans (width_lt storable) (by decide))

theorem index_lt_of_storable {row col : Nat} (hrow : row < g.height) (hcol : col < g.width) :
    g.index row col < 2 ^ 63 :=
  Nat.lt_trans (index_lt hrow hcol) storable

private theorem outside_iff {row col : UInt64} :
    .ofNat g.height ≤ row ∨ .ofNat g.width ≤ col ↔
      ¬ (row.toNat < g.height ∧ col.toNat < g.width) := by
  rw [UInt64.le_iff_toNat_le, UInt64.le_iff_toNat_le, toNat_ofNat_height storable,
    toNat_ofNat_width storable]
  omega

theorem getAtWords?_eq (row col : UInt64) :
    g.getAtWords? row col = some (g.get? row.toNat col.toNat) := by
  rw [getAtWords?, get?]
  by_cases inside : row.toNat < g.height ∧ col.toNat < g.width
  · rw [if_neg (by rw [outside_iff storable]; exact not_not_intro inside), if_pos inside]
    have place : row.toNat * g.width + col.toNat < 2 ^ 63 :=
      index_lt_of_storable storable inside.1 inside.2
    obtain ⟨start, hstart, starts⟩ :=
      Word.exists_product? (a := row) (b := .ofNat g.width) (by rw [toNat_ofNat_width storable]; omega)
    rw [toNat_ofNat_width storable] at starts
    obtain ⟨index, hindex, indexed⟩ := Word.exists_sum? (a := start) (b := col) (by omega)
    simp [hstart, hindex, indexed, starts, Grid.index]
  · rw [if_pos ((outside_iff storable).2 inside), if_neg inside]

end Storable

end Grid

end GameOfLife

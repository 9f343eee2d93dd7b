import GameOfLife.Grid.Basic

/-!
The eight cells around a coordinate. Coordinates are integers here, so that places outside the
board have neighbours as well; whatever lies outside is dead and nothing wraps around.
-/

set_option autoImplicit false
set_option relaxedAutoImplicit false

namespace GameOfLife

/-- The displacements from a coordinate to the eight coordinates at distance one. -/
def neighborOffsets : List (Int × Int) :=
  [(-1, -1), (-1, 0), (-1, 1), (0, -1), (0, 1), (1, -1), (1, 0), (1, 1)]

namespace Grid

/-- Whether the cell at a coordinate of the plane is alive; outside the grid none is. -/
def aliveAt (g : Grid) : Int → Int → Bool
  | .ofNat row, .ofNat col => (g.get? row col).any Cell.isAlive
  | _, _ => false

theorem aliveAt_iff {g : Grid} {row col : Int} :
    g.aliveAt row col = true ↔
      0 ≤ row ∧ 0 ≤ col ∧ g.get? row.toNat col.toNat = some .alive := by
  unfold aliveAt
  split
  · next row col => cases h : g.get? row col <;> simp [Cell.isAlive_iff, h]
  · next notNat =>
    simp only [Bool.false_eq_true, false_iff, not_and]
    intro hrow hcol
    exact (notNat row.toNat col.toNat (Int.toNat_of_nonneg hrow).symm
      (Int.toNat_of_nonneg hcol).symm).elim

def liveNeighbors (g : Grid) (row col : Int) : Nat :=
  neighborOffsets.countP fun offset => g.aliveAt (row + offset.1) (col + offset.2)

/-- The live neighbours of a coordinate given as two machine words, each read as a signed number:
the largest word stands for -1. -/
def liveNeighborsAtWord (g : Grid) (row col : UInt64) : Nat :=
  g.liveNeighbors row.toInt64.toInt col.toInt64.toInt

end Grid

end GameOfLife

import GameOfLife.Generation

/-!
Checking one board against the next generation of another: whether they are the same state, and, if
they have the same size, where they differ.
-/

set_option autoImplicit false
set_option relaxedAutoImplicit false

namespace GameOfLife

def Grid.sameState (a b : Grid) : Bool :=
  decide (a.SameSize b) && (a.rows.zip b.rows).all fun pair => pair.1 == pair.2

/-- The coordinates of `a` at which `b` holds something else, row by row. -/
def Grid.differences (a b : Grid) : List (Nat × Nat) :=
  a.coordinates.filter fun place => a.get? place.1 place.2 != b.get? place.1 place.2

structure Verdict where
  successor : Grid
  isNext : Bool
  /-- Where the two differ, row by row; empty when they agree and when their sizes differ. -/
  mismatches : List (Nat × Nat)
  deriving DecidableEq

def check (current target : Grid) : Verdict :=
  let successor := current.next
  let isNext := successor.sameState target
  { successor
    isNext
    mismatches :=
      if isNext = true ∨ ¬ successor.SameSize target then [] else successor.differences target }

end GameOfLife

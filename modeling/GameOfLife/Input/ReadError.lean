import GameOfLife.Grid.Basic
import GameOfLife.Input.Stream

/-!
What can go wrong while a grid is read, how it is worded, and what caused it. Lines are counted
from one.
-/

set_option autoImplicit false
set_option relaxedAutoImplicit false

namespace GameOfLife

inductive ReadError where
  | io (fault : Fault)
  | invalidToken (line : Nat) (token : String)
  | notBinary (line : Nat) (value : Int)
  | grid (line : Nat) (cause : ShapeError)
  | badHeader (line : Nat) (text : String)
  | truncated (expected found : Nat)
  deriving DecidableEq

namespace ReadError

def message : ReadError → String
  | io _ => "could not read input"
  | invalidToken line token => s!"line {line}: `{token}` is not an integer"
  | notBinary line value => s!"line {line}: {value} is not a cell value, expected 0 or 1"
  | grid line _ => s!"line {line}: malformed grid"
  | badHeader line text => s!"line {line}: expected a `<rows> <cols>` header, found `{text}`"
  | truncated expected found => s!"expected {expected} rows but the grid ended after {found}"

def cause? : ReadError → Option String
  | io fault => some fault.message
  | grid _ cause => some cause.message
  | _ => none

end ReadError

end GameOfLife

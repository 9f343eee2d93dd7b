import GameOfLife.Input.ReadError
import GameOfLife.Text.Numeral
import GameOfLife.Text.Words

/-!
One line of input as cells or as a header. A row is a line of words that each denote 0 or 1; a header
is a line of exactly two words, the number of rows and the number of columns.
-/

set_option autoImplicit false
set_option relaxedAutoImplicit false

namespace GameOfLife

def parseCell (line : Nat) (token : String) : Except ReadError Cell :=
  match Text.integer? token with
  | none => .error (.invalidToken line token)
  | some value =>
    match Cell.ofInt? value with
    | none => .error (.notBinary line value)
    | some cell => .ok cell

/-- The cells of a row; the first word that is not a cell is reported at the given line. -/
def parseRow (text : String) (line : Nat) : Except ReadError (List Cell) :=
  (Text.words text).mapM (parseCell line)

def headerSize? (text : String) : Option (Nat × Nat) :=
  match Text.words text with
  | [height, width] => do return (← Text.size? height, ← Text.size? width)
  | _ => none

end GameOfLife

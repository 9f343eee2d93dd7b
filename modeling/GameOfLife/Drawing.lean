import GameOfLife.Grid.Basic

/-!
Drawing grids as text: every cell is its digit and a space, every row ends its line. In colour each
digit stands between an escape sequence that sets its colour and one that resets it. A drawing is the
list of the pieces that are written one after another; the loops that write them stop where a writer fails.
-/

set_option autoImplicit false
set_option relaxedAutoImplicit false

namespace GameOfLife

inductive Style where
  | plain
  | color
  deriving DecidableEq

/-- Colours are kept on a terminal only. -/
def Style.forOutput (style : Style) (terminal : Bool) : Style :=
  if terminal then style else .plain

/-- The escape sequence that sets the colour of a cell: bright green if alive, dark grey if dead. -/
def Cell.setColor : Cell → String
  | .alive => "\x1b[38;5;10m"
  | .dead => "\x1b[38;5;8m"

def resetColor : String := "\x1b[0m"

def Style.cell : Style → Cell → List String
  | .plain, cell => [String.singleton cell.digit, " "]
  | .color, cell => [cell.setColor, String.singleton cell.digit, resetColor, " "]

def Style.row (style : Style) (row : List Cell) : List String :=
  row.flatMap style.cell ++ ["\n"]

namespace Grid

def draw (style : Style) (g : Grid) : List String :=
  g.rows.flatMap style.row

def drawLabeled (style : Style) (label : String) (g : Grid) : List String :=
  label :: ":\n" :: g.draw style

def display (g : Grid) : String :=
  String.join (g.draw .plain)

end Grid

section Loops

variable {m : Type → Type} [Monad m] (put : String → m Unit)

def Style.writeCell : Style → Cell → m Unit
  | .plain, cell => do
    put (String.singleton cell.digit)
    put " "
  | .color, cell => do
    put cell.setColor
    put (String.singleton cell.digit)
    put resetColor
    put " "

namespace Grid

def write (style : Style) (g : Grid) : m Unit :=
  g.rows.forM fun row => do
    row.forM (style.writeCell put)
    put "\n"

def writeLabeled (style : Style) (label : String) (g : Grid) : m Unit := do
  put label
  put ":\n"
  g.write put style

end Grid

end Loops

end GameOfLife

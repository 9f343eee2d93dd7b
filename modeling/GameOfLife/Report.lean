import GameOfLife.Folder
import GameOfLife.Grid.Basic
import GameOfLife.Json.Printer

/-!
The report of a run: the grids read, the successor computed, the verdict and the error. Grids add up,
everything else is replaced by what is logged later. A report is saved as a JSON document whose
members are in alphabetical order at every level.
-/

set_option autoImplicit false
set_option relaxedAutoImplicit false

namespace GameOfLife

inductive Entry where
  | grid (label : String) (grid : Grid)
  | successor (grid : Grid)
  | verdict (isNext : Bool) (mismatches : List (Nat × Nat))
  | error (message : String)

structure Report where
  grids : List (String × Grid) := []
  successor : Option Grid := none
  isNext : Option Bool := none
  mismatches : List (Nat × Nat) := []
  error : Option String := none
  deriving DecidableEq

def successorLabel : String := "next(t0)"

namespace Report

def log (report : Report) : Entry → Report
  | .grid label grid => { report with grids := report.grids ++ [(label, grid)] }
  | .successor grid => { report with successor := some grid }
  | .verdict isNext mismatches => { report with isNext := some isNext, mismatches }
  | .error message => { report with error := some message }

def gridRecord (label : String) (g : Grid) : Json.Value :=
  .object [
    ("cells", .ofList (.ofList fun cell : Cell => .number cell.toNat) g.rows),
    ("height", .number g.height),
    ("label", .string label),
    ("population", .number g.population),
    ("width", .number g.width)]

def coordinateRecord (place : Nat × Nat) : Json.Value :=
  .array [.number place.1, .number place.2]

def toJson (report : Report) : Json.Value :=
  .object [
    ("error", .ofOption .string report.error),
    ("grids", .ofList (fun entry => gridRecord entry.1 entry.2) report.grids),
    ("is_next_state", .ofOption .bool report.isNext),
    ("mismatches", .ofList coordinateRecord report.mismatches),
    ("successor", .ofOption (gridRecord successorLabel) report.successor)]

def text (report : Report) : String :=
  report.toJson.print

/-- Saves the report, if a path is named for it: its file is created, and then written. -/
def save {m : Type → Type} [Monad m] {File : Type} (access : FileAccess m File) (report : Report) :
    Option String → m (Except SaveError Unit)
  | none => return .ok ()
  | some path => do
    match ← access.create path with
    | .error cause => return .error cause
    | .ok file => access.write file report.text

/-- What saving the report in a folder comes to, and the folder afterwards. -/
def saveIn (folder : Folder) (report : Report) (path : Option String) : Except SaveError Unit × Folder :=
  (report.save Folder.access path).run folder

end Report

end GameOfLife

import GameOfLife.Failure
import GameOfLife.Report
import GameOfLife.Verdict

/-!
A run from its arguments and its input to its exit code: two states are asked for and read one after
the other, both are shown, and the verdict follows. The report is saved at the end whether or not the
states could be read; the failure of a run takes precedence over a failure to save.
-/

set_option autoImplicit false
set_option relaxedAutoImplicit false

namespace GameOfLife

def Layout.instructions : Layout → String
  | .plain =>
    "Enter the grid row by row (0s and 1s separated by spaces). End input with an empty line:"
  | .sized =>
    "Enter the number of rows and columns, then the grid row by row (0s and 1s separated by spaces):"

def Options.prompt (options : Options) (state : Role) : String :=
  if options.quiet then ""
  else
    let description := state.description
    s!"Enter the {description}:\n" ++ options.layout.instructions ++ "\n"

/-- The line that lists where the states differ; there is none if they differ nowhere. -/
def differencesLine : List (Nat × Nat) → String
  | [] => ""
  | places =>
    let items := places.map fun (row, col) => s!"({row}, {col})"
    "differs at " ++ ", ".intercalate items ++ "\n"

namespace Verdict

def line (verdict : Verdict) : String :=
  if verdict.isNext then "t1 is the next state of t0.\n"
  else "t1 is not the next state of t0.\n"

/-- What is shown of a verdict: before a negative one, if asked for, the successor and where the
target differs from it. -/
def text (options : Options) (style : Style) (verdict : Verdict) : String :=
  if options.showSuccessor = true ∧ verdict.isNext = false then
    String.join (verdict.successor.drawLabeled style successorLabel) ++
      differencesLine verdict.mismatches ++ verdict.line
  else verdict.line

end Verdict

/-- What a run has written, what it has recorded, and how it failed, if it did. -/
structure Transcript where
  output : String
  report : Report
  failure : Option Failure
  deriving DecidableEq

namespace Transcript

def failed (output : String) (report : Report) (failure : Failure) : Transcript :=
  ⟨output, report.log (.error failure.summary), some failure⟩

def completed (options : Options) (style : Style) (asked : String) (current target : Grid) :
    Transcript :=
  let verdict := check current target
  { output := asked ++ String.join (current.drawLabeled style Role.current.label) ++
      String.join (target.drawLabeled style Role.target.label) ++ verdict.text options style
    report := [.grid Role.current.label current, .grid Role.target.label target,
      .successor verdict.successor, .verdict verdict.isNext verdict.mismatches].foldl Report.log {}
    failure := none }

def run (options : Options) (terminal : Bool) (reader : Reader) : Transcript :=
  let asked := options.prompt .current
  match reader.read options.layout with
  | (.error e, _) => failed asked {} (.reading .current e)
  | (.ok current, reader) =>
    let asked := asked ++ options.prompt .target
    match reader.read options.layout with
    | (.error e, _) =>
      failed asked (({} : Report).log (.grid Role.current.label current)) (.reading .target e)
    | (.ok target, _) =>
      completed options (options.style.forOutput terminal) asked current target

end Transcript

/-- What a run leaves behind: its output, the folder, and how it failed, if it did. -/
structure Outcome where
  output : String
  folder : Folder
  failure : Option Failure

namespace Outcome

def code (outcome : Outcome) : Nat :=
  if outcome.failure.isSome then 1 else 0

def errorOutput (outcome : Outcome) : String :=
  (outcome.failure.map Failure.report).getD ""

def firstFailure (run : Option Failure) (saved : Except SaveError Unit) : Option Failure :=
  match run, saved with
  | some failure, _ => some failure
  | none, .error cause => some (.saving cause)
  | none, .ok _ => none

def ofCommand (arguments : List String) (terminal : Bool) (input : Reader) (folder : Folder) :
    Outcome :=
  match Request.ofArguments arguments with
  | .refused cause => ⟨"", folder, some (.options cause)⟩
  | .usage => ⟨Options.usage ++ "\n", folder, none⟩
  | .run options =>
    let transcript := Transcript.run options terminal input
    let (saved, folder) := transcript.report.saveIn folder options.report
    { output := transcript.output
      folder
      failure := firstFailure transcript.failure saved }

end Outcome

end GameOfLife

import GameOfLife.Session

/-!
The command, in whatever surroundings it runs: what it asks of them, and in which order. Nothing is read unless
a run is asked for, the output comes before the report is saved, and what failed is told last.
-/

set_option autoImplicit false
set_option relaxedAutoImplicit false

namespace GameOfLife

/-- All that the command can do outside of itself, in the monad that it runs in. -/
structure Surroundings (m : Type → Type) (File : Type) where
  isTerminal : m Bool
  input : m Reader
  print : String → m Unit
  printError : String → m Unit
  files : FileAccess m File

namespace Surroundings

variable {m : Type → Type} [Monad m] {File : Type}

def conclude (around : Surroundings m File) : Option Failure → m UInt32
  | none => return 0
  | some failure => do
    around.printError failure.report
    return 1

def command (around : Surroundings m File) (arguments : List String) : m UInt32 :=
  match Request.ofArguments arguments with
  | .refused cause => around.conclude (some (.options cause))
  | .usage => do
    around.print (Options.usage ++ "\n")
    around.conclude none
  | .run options => do
    let transcript := Transcript.run options (← around.isTerminal) (← around.input)
    around.print transcript.output
    let saved ← transcript.report.save around.files options.report
    around.conclude (Outcome.firstFailure transcript.failure saved)

end Surroundings

end GameOfLife

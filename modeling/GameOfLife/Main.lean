import GameOfLife.Command

/-!
The command among the streams and files of a system. It reads all of its input at once.
-/

set_option autoImplicit false
set_option relaxedAutoImplicit false

namespace GameOfLife

def systemMessage : IO.Error → String
  | .alreadyExists _ code details | .otherError code details | .resourceBusy code details
  | .hardwareFault code details | .illegalOperation code details
  | .interrupted _ code details | .noFileOrDirectory _ code details
  | .invalidArgument _ code details | .permissionDenied _ code details
  | .resourceExhausted _ code details | .inappropriateType _ code details
  | .noSuchThing _ code details => s!"{details} (os error {code})"
  | e => toString e

/-- Everything that arrives on a stream, after what has arrived before, and the fault that ended it,
if one did. -/
partial def arrivals (input : IO.FS.Stream) (before : Array Arrival) : IO (Array Arrival) := do
  match ← (input.read 65536).toBaseIO with
  | .error e => return before.push (.fault ⟨.named "Other", systemMessage e⟩)
  | .ok bytes =>
    if bytes.isEmpty then return before
    else arrivals input (bytes.foldl (fun arrived value => arrived.push (.byte value)) before)

def attempt {α : Type} (action : IO α) : IO (Except SaveError α) := do
  return (← action.toBaseIO).mapError fun e => .failed (systemMessage e)

def systemFiles : FileAccess IO IO.FS.Handle where
  create path := attempt (IO.FS.Handle.mk path .write)
  write file text := attempt do
    file.putStr text
    file.flush

def system : Surroundings IO IO.FS.Handle where
  isTerminal := do (← IO.getStdout).isTty
  input := return Reader.ofStream (← arrivals (← IO.getStdin) #[]).toList
  print text := do
    let output ← IO.getStdout
    output.putStr text
    output.flush
  printError text := IO.eprint text
  files := systemFiles

end GameOfLife

def main (arguments : List String) : IO UInt32 :=
  GameOfLife.system.command arguments

import GameOfLife.FileSystem.Basic
import GameOfLife.Options

/-!
How a run can fail, as a message followed by its causes, outermost first.
-/

set_option autoImplicit false
set_option relaxedAutoImplicit false

namespace GameOfLife

inductive Role where
  | current
  | target
  deriving DecidableEq

namespace Role

def label : Role → String
  | current => "t0"
  | target => "t1"

def description : Role → String
  | current => "current state (t0)"
  | target => "target state (t1)"

end Role

inductive Failure where
  | options (cause : OptionError)
  | reading (state : Role) (cause : ReadError)
  | saving (cause : SaveError)
  deriving DecidableEq

namespace Failure

def message : Failure → String
  | options cause => cause.message ++ "\n" ++ Options.usage
  | reading state _ => "failed to read the " ++ state.description
  | saving _ => "failed to write the report"

def causes : Failure → List String
  | options _ => []
  | reading _ cause => cause.message :: cause.cause?.toList
  | saving cause => [cause.message]

def summary (failure : Failure) : String :=
  ": ".intercalate (failure.message :: failure.causes)

def numberedCause (cause : Nat × String) : String :=
  let number := cause.1.repr
  let text := cause.2
  "".pushn ' ' (5 - number.length) ++ s!"{number}: {text}\n"

def causeLines : List String → String
  | [] => ""
  | [cause] => s!"\nCaused by:\n    {cause}\n"
  | causes => "\nCaused by:\n" ++ String.join ((List.range causes.length).zip causes |>.map numberedCause)

def report (failure : Failure) : String :=
  let message := failure.message
  s!"Error: {message}\n" ++ causeLines failure.causes

end Failure

end GameOfLife

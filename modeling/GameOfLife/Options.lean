import GameOfLife.Drawing
import GameOfLife.Input.Reader

/-!
The options of a run and their spelling on the command line. Arguments are taken from left to right;
`--report` takes the argument after it whatever it looks like, the last one counts, and the first
argument that is no option ends the scan with an error.
-/

set_option autoImplicit false
set_option relaxedAutoImplicit false

namespace GameOfLife

structure Options where
  quiet : Bool := false
  style : Style := .plain
  layout : Layout := .plain
  /-- Show the computed successor when the target is another grid. -/
  showSuccessor : Bool := false
  /-- Where to save the report, if anywhere. -/
  report : Option String := none
  help : Bool := false
  deriving DecidableEq

inductive OptionError where
  | missingValue (option : String)
  | unknownArgument (argument : String)
  deriving DecidableEq

def OptionError.message : OptionError → String
  | missingValue option => s!"{option} requires a value"
  | unknownArgument argument => s!"unknown argument: {argument}"

inductive Flag where
  | quiet
  | color
  | sized
  | showSuccessor
  | help
  deriving DecidableEq

def Flag.spellings : List (String × Flag) :=
  [("-q", quiet), ("--quiet", quiet), ("--color", color), ("--sized", sized),
    ("--show-successor", showSuccessor), ("-h", help), ("--help", help)]

def Flag.ofString? (argument : String) : Option Flag :=
  spellings.lookup argument

def reportOption : String := "--report"

namespace Options

def set (options : Options) : Flag → Options
  | .quiet => { options with quiet := true }
  | .color => { options with style := .color }
  | .sized => { options with layout := .sized }
  | .showSuccessor => { options with showSuccessor := true }
  | .help => { options with help := true }

def addArguments (options : Options) : List String → Except OptionError Options
  | [] => .ok options
  | argument :: rest =>
    if argument = reportOption then
      match rest with
      | [] => .error (.missingValue argument)
      | path :: rest => { options with report := some path }.addArguments rest
    else
      match Flag.ofString? argument with
      | some flag => (options.set flag).addArguments rest
      | none => .error (.unknownArgument argument)

def ofArguments (arguments : List String) : Except OptionError Options :=
  ({} : Options).addArguments arguments

def usage : String :=
  "usage: life_check [--quiet] [--color] [--sized] [--show-successor] [--report FILE]"

end Options

inductive Request where
  | refused (cause : OptionError)
  | usage
  | run (options : Options)
  deriving DecidableEq

/-- What arguments amount to: a request for help is met only if all arguments are options. -/
def Request.ofArguments (arguments : List String) : Request :=
  match Options.ofArguments arguments with
  | .error cause => refused cause
  | .ok options => if options.help then usage else run options

end GameOfLife

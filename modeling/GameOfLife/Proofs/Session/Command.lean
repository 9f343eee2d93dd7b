import GameOfLife.Command
import GameOfLife.Proofs.Saving

/-!
The command on a stage. There the input is given, whatever is printed is kept, and files are those of a folder. What
the command leaves on the stage, and its exit code, are what the outcome of a run says of them; so all that is known
of outcomes is known of the command that runs on a system, as far as the system keeps to the stage.
-/

set_option autoImplicit false
set_option relaxedAutoImplicit false

namespace GameOfLife

/-- What was printed so far, and the folder as it is now. -/
structure Stage where
  output : String
  errorOutput : String
  folder : Folder

namespace Stage

def inFolder {α : Type} (action : StateM Folder α) : StateM Stage α := fun stage =>
  let (result, folder) := action.run stage.folder
  (result, { stage with folder })

def surroundings (terminal : Bool) (input : Reader) : Surroundings (StateM Stage) OpenFile where
  isTerminal := return terminal
  input := return input
  print text := modify fun stage => { stage with output := stage.output ++ text }
  printError text := modify fun stage => { stage with errorOutput := stage.errorOutput ++ text }
  files := {
    create := fun path => inFolder (Folder.access.create path)
    write := fun file text => inFolder (Folder.access.write file text) }

variable (stage : Stage) (terminal : Bool) (input : Reader)

private theorem run_isTerminal :
    (surroundings terminal input).isTerminal.run stage = pure (terminal, stage) :=
  rfl

private theorem run_input : (surroundings terminal input).input.run stage = pure (input, stage) :=
  rfl

private theorem run_print (text : String) :
    ((surroundings terminal input).print text).run stage =
      pure ((), { stage with output := stage.output ++ text }) :=
  rfl

private theorem run_save (report : Report) (path : Option String) :
    (report.save (surroundings terminal input).files path).run stage =
      pure ((report.saveIn stage.folder path).1,
        { stage with folder := (report.saveIn stage.folder path).2 }) := by
  cases path with
  | none => rfl
  | some path =>
    obtain ⟨result, folder, created⟩ : ∃ result folder,
        Folder.access.create path stage.folder = (result, folder) := ⟨_, _, rfl⟩
    have created' : (surroundings terminal input).files.create path stage =
        (result, { stage with folder }) := by
      simp only [surroundings, inFolder, StateT.run, created]
    simp only [Report.save, Report.saveIn, StateT.run, bind, StateT.bind, created, created']
    cases result <;> rfl

private theorem run_conclude (failure : Option Failure) :
    ((surroundings terminal input).conclude failure).run stage =
      pure (if failure.isSome then 1 else 0,
        { stage with errorOutput := stage.errorOutput ++ (failure.map Failure.report).getD "" }) := by
  cases failure with
  | none =>
    have nothing : stage.errorOutput ++ "" = stage.errorOutput := String.append_empty
    exact congrArg (fun text => ((0 : UInt32), { stage with errorOutput := text })) nothing.symm
  | some failure => rfl

/-- The command says, saves and returns what the outcome of a run says. -/
theorem run_command (arguments : List String) :
    let outcome := Outcome.ofCommand arguments terminal input stage.folder
    ((surroundings terminal input).command arguments).run stage =
      (.ofNat outcome.code, {
        output := stage.output ++ outcome.output
        errorOutput := stage.errorOutput ++ outcome.errorOutput
        folder := outcome.folder }) := by
  intro outcome
  have code : UInt32.ofNat outcome.code = if outcome.failure.isSome then 1 else 0 := by
    unfold Outcome.code
    split <;> rfl
  rw [code]
  simp only [Surroundings.command, outcome, Outcome.ofCommand]
  cases Request.ofArguments arguments with
  | refused cause =>
    rw [run_conclude]
    simp [Outcome.errorOutput, pure]
  | usage =>
    rw [StateT.run_bind, run_print, pure_bind, run_conclude]
    simp [Outcome.errorOutput, pure]
  | run options =>
    simp only [StateT.run_bind, run_isTerminal, run_input, run_print, run_save, run_conclude, pure_bind]
    rfl

end Stage

end GameOfLife

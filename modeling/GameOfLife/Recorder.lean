import GameOfLife.Report

/-!
Keeping a report while things happen: entries are logged and the report is saved any number of times.
A recorder without a path saves nothing, and that never fails.
-/

set_option autoImplicit false
set_option relaxedAutoImplicit false

namespace GameOfLife

inductive RecorderStep where
  | log (entry : Entry)
  | save

/-- A report that is being kept, where it is to be saved, and the folder it is saved in. -/
structure Recorder where
  path : Option String
  report : Report := {}
  folder : Folder := {}

namespace Recorder

def log (recorder : Recorder) (entry : Entry) : Recorder :=
  { recorder with report := recorder.report.log entry }

def save (recorder : Recorder) : Except SaveError Unit × Recorder :=
  let (saved, folder) := recorder.report.saveIn recorder.folder recorder.path
  (saved, { recorder with folder })

def step (recorder : Recorder) : RecorderStep → Recorder
  | .log entry => recorder.log entry
  | .save => recorder.save.2

def run (recorder : Recorder) (steps : List RecorderStep) : Recorder :=
  steps.foldl step recorder

@[simp] theorem path_step (recorder : Recorder) (step : RecorderStep) :
    (recorder.step step).path = recorder.path := by
  cases step <;> rfl

theorem report_save (recorder : Recorder) : recorder.save.2.report = recorder.report := rfl

end Recorder

end GameOfLife

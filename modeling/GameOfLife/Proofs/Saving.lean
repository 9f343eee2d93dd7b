import GameOfLife.Recorder

/-!
What becomes of a text that is saved. Its file is created first, so what the file held is lost, and it holds the
whole text unless the room is used up before; then it holds the beginning. No other file is touched.
-/

set_option autoImplicit false
set_option relaxedAutoImplicit false

namespace GameOfLife

open Text (bytes)

/-- Whether a path names one and the same file whenever it is opened, and that never runs out of room. -/
def FileSystem.Writable (system : FileSystem) (path name : String) : Prop :=
  ∀ contents, system.opened contents path = .ok ⟨some name, none⟩

namespace Folder

def Accepts (folder : Folder) (path text : String) : Prop :=
  ∃ file, folder.opened path = .ok file ∧ file.Fits (bytes text)

/-- Whether a text can be saved under a path, and is to be found in the file `name` then. -/
def Keeps (folder : Folder) (path name text : String) : Prop :=
  ∃ file, folder.opened path = .ok file ∧ file.name = some name ∧ file.Fits (bytes text)

/-- Why a text cannot be saved under a path: no file can be created there, or the file is full before the end of
the text. -/
inductive Refuses (folder : Folder) (path text : String) : SaveError → Prop
  | unopened {cause : SaveError} : folder.opened path = .error cause → Refuses folder path text cause
  | full {file : OpenFile} {room : Nat} {cause : SaveError} : folder.opened path = .ok file →
      file.limit = some (room, cause) → room < (bytes text).length → Refuses folder path text cause

variable {folder : Folder} {path name text : String}

theorem Keeps.accepts (keeps : folder.Keeps path name text) : folder.Accepts path text := by
  obtain ⟨file, opened, -, fits⟩ := keeps
  exact ⟨file, opened, fits⟩

theorem keeps_of_writable (writable : folder.system.Writable path name) : folder.Keeps path name text :=
  ⟨⟨some name, none⟩, writable folder.contents, rfl, OpenFile.fits_of_limit_eq_none rfl⟩

theorem accepts_or_refuses (folder : Folder) (path text : String) :
    folder.Accepts path text ∨ ∃ cause, folder.Refuses path text cause := by
  cases opened : folder.opened path with
  | error cause => exact .inr ⟨cause, .unopened opened⟩
  | ok file =>
    cases limit : file.limit with
    | none => exact .inl ⟨file, opened, OpenFile.fits_of_limit_eq_none limit⟩
    | some limited =>
      obtain ⟨room, cause⟩ := limited
      rcases Nat.lt_or_ge room (bytes text).length with tooLong | enough
      · exact .inr ⟨cause, .full opened limit tooLong⟩
      · refine .inl ⟨file, opened, ?_⟩
        rw [OpenFile.Fits, limit]
        rintro _ _ ⟨⟩
        exact enough

private theorem get?_put_of_ne {other : String} (h : other ≠ name) (content : List UInt8) :
    (folder.put name content).get? other = folder.get? other := by
  have different : (other == name) = false := beq_false_of_ne h
  have others : (folder.contents.filter fun file => file.1 != name).lookup other =
      folder.contents.lookup other := by
    induction folder.contents with
    | nil => rfl
    | cons file files ih =>
      obtain ⟨key, value⟩ := file
      by_cases same : key = name
      · subst same
        simp [List.lookup_cons, different, ih]
      · simp [List.lookup_cons, same, ih]
  simpa [get?, put, List.lookup_cons, different] using others

theorem get?_holding_self {file : OpenFile} (named : file.name = some name) (content : List UInt8) :
    (folder.holding file content).get? name = some content := by
  rw [holding, named]
  exact get?_put_self folder name content

private theorem system_holding {file : OpenFile} (content : List UInt8) :
    (folder.holding file content).system = folder.system := by
  unfold holding
  split <;> rfl

theorem get?_holding_of_ne {file : OpenFile} (other : file.name ≠ some name) (content : List UInt8) :
    (folder.holding file content).get? name = folder.get? name := by
  unfold holding
  split
  · rfl
  · next written named =>
    apply get?_put_of_ne
    rintro rfl
    exact other named

end Folder

namespace Report

variable {folder : Folder} {report : Report} {path name : String} {file : OpenFile} {cause : SaveError}

theorem saveIn_none : report.saveIn folder none = (.ok (), folder) := rfl

theorem saveIn_of_unopened (unopened : folder.opened path = .error cause) :
    report.saveIn folder (some path) = (.error cause, folder) := by
  have created : Folder.access.create path folder = (.error cause, folder) := by
    simp only [Folder.access, unopened]
  simp only [saveIn, save, StateT.run, bind, StateT.bind, created]
  rfl

/-- The file is emptied first, and holds afterwards what was written. -/
theorem saveIn_of_opened (opened : folder.opened path = .ok file) :
    report.saveIn folder (some path) =
      (file.answer (bytes report.text), folder.holding file (file.taken (bytes report.text))) := by
  have created : Folder.access.create path folder = (.ok file, folder.holding file []) := by
    simp only [Folder.access, opened]
  have written : report.saveIn folder (some path) =
      Folder.access.write file report.text (folder.holding file []) := by
    simp only [saveIn, save, StateT.run, bind, StateT.bind, created]
  have appended := Folder.append_holding_nil folder file (file.taken (bytes report.text))
  exact written.trans (congrArg (file.answer (bytes report.text), ·) appended)

theorem saveIn_of_fits (opened : folder.opened path = .ok file) (fits : file.Fits (bytes report.text)) :
    report.saveIn folder (some path) = (.ok (), folder.holding file (bytes report.text)) := by
  rw [saveIn_of_opened opened, OpenFile.answer_of_fits fits, OpenFile.taken_of_fits fits]

theorem fst_saveIn_of_accepts (accepts : folder.Accepts path report.text) :
    (report.saveIn folder (some path)).1 = .ok () := by
  obtain ⟨file, opened, fits⟩ := accepts
  rw [saveIn_of_fits opened fits]

theorem fst_saveIn_of_refuses (refuses : folder.Refuses path report.text cause) :
    (report.saveIn folder (some path)).1 = .error cause := by
  cases refuses with
  | unopened opened => rw [saveIn_of_unopened opened]
  | full opened limit tooLong =>
    rw [saveIn_of_opened opened, OpenFile.answer, limit]
    exact if_neg (Nat.not_le.2 tooLong)

theorem get?_saveIn_of_keeps (keeps : folder.Keeps path name report.text) :
    (report.saveIn folder (some path)).2.get? name = some (bytes report.text) := by
  obtain ⟨file, opened, named, fits⟩ := keeps
  rw [saveIn_of_fits opened fits]
  exact Folder.get?_holding_self named _

private theorem system_saveIn (report : Report) (path : Option String) (folder : Folder) :
    (report.saveIn folder path).2.system = folder.system := by
  cases path with
  | none => rfl
  | some path =>
    cases opened : folder.opened path with
    | error cause => rw [saveIn_of_unopened opened]
    | ok file => rw [saveIn_of_opened opened, Folder.system_holding]

private theorem accepts_of_fst_saveIn (saved : (report.saveIn folder (some path)).1 = .ok ()) :
    folder.Accepts path report.text := by
  refine (folder.accepts_or_refuses path report.text).resolve_right ?_
  rintro ⟨cause, refuses⟩
  rw [fst_saveIn_of_refuses refuses] at saved
  exact nomatch saved

end Report

def Recorder.leaves? (recorder : Recorder) (name : String) : Option (List UInt8) :=
  match recorder.save with
  | (.ok (), saved) => saved.folder.get? name
  | (.error _, _) => none

namespace Recorder

theorem system_step (recorder : Recorder) (step : RecorderStep) :
    (recorder.step step).folder.system = recorder.folder.system := by
  cases step with
  | log entry => rfl
  | save => exact Report.system_saveIn recorder.report recorder.path recorder.folder

variable {recorder : Recorder} {path name : String}

theorem leaves?_of_keeps (known : recorder.path = some path)
    (keeps : recorder.folder.Keeps path name recorder.report.text) :
    recorder.leaves? name = some (bytes recorder.report.text) := by
  have answer := Report.fst_saveIn_of_accepts keeps.accepts
  have content := Report.get?_saveIn_of_keeps keeps
  simp only [leaves?, save, known, answer, content]

theorem accepts_of_leaves? {content : List UInt8} (known : recorder.path = some path)
    (left : recorder.leaves? name = some content) :
    recorder.folder.Accepts path recorder.report.text := by
  apply Report.accepts_of_fst_saveIn
  simp only [leaves?, save, known] at left
  split at left
  · next saved => exact congrArg Prod.fst saved
  · exact nomatch left

end Recorder

end GameOfLife

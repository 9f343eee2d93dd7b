import GameOfLife.Proofs.Failure
import GameOfLife.Proofs.Session.Account

/-!
How a run ends. The first thing that goes wrong decides what is written about it, in the order of
arguments, reads and report, and the exit code is zero exactly if nothing goes wrong. A report is left
behind whenever one is wanted and its file can be written, also after a failed read.
-/

set_option autoImplicit false
set_option relaxedAutoImplicit false

namespace GameOfLife

open Text

/-- The ways in which a run can end, each with its exit code and what it writes about its error. -/
inductive Ending (arguments : List String) (input : Reader) (folder : Folder) : Nat → String → Prop
  | refused {cause : OptionError} : Options.ofArguments arguments = .error cause →
      Ending arguments input folder 1 (unlines ["Error: " ++ cause.message, Options.usage])
  | helped {options : Options} : Options.ofArguments arguments = .ok options → options.help = true →
      Ending arguments input folder 0 ""
  | currentUnread {options : Options} {e : ReadError} {second : Except ReadError Grid} :
      Options.ofArguments arguments = .ok options → options.help = false →
      input.Reads options.layout (.error e) second →
      Ending arguments input folder 1 (unlines (errorLines "failed to read the current state (t0)"
        (e.message :: e.cause?.toList)))
  | targetUnread {options : Options} {current : Grid} {e : ReadError} :
      Options.ofArguments arguments = .ok options → options.help = false →
      input.Reads options.layout (.ok current) (.error e) →
      Ending arguments input folder 1 (unlines (errorLines "failed to read the target state (t1)"
        (e.message :: e.cause?.toList)))
  | unsaved {options : Options} {current target : Grid} {path : String} {cause : SaveError} :
      Options.ofArguments arguments = .ok options → options.help = false →
      input.Reads options.layout (.ok current) (.ok target) → options.report = some path →
      folder.Refuses path (runReport (.ok current) (.ok target)).text cause →
      Ending arguments input folder 1
        (unlines (errorLines "failed to write the report" [cause.message]))
  | finished {options : Options} {current target : Grid} :
      Options.ofArguments arguments = .ok options → options.help = false →
      input.Reads options.layout (.ok current) (.ok target) → options.Savable input folder →
      Ending arguments input folder 0 ""

/-- Whether arguments ask for a report under a path, and which text it has. -/
def ToSave (arguments : List String) (input : Reader) (path text : String) : Prop :=
  ∃ options first second, Options.ofArguments arguments = .ok options ∧ options.help = false ∧
    options.report = some path ∧ input.Reads options.layout first second ∧
    text = (runReport first second).text

private theorem ToSave.unique {arguments : List String} {input : Reader} {path path' text text' : String}
    (toSave : ToSave arguments input path text) (toSave' : ToSave arguments input path' text') :
    path = path' ∧ text = text' := by
  obtain ⟨options, first, second, accepted, -, wanted, reads, rfl⟩ := toSave
  obtain ⟨options', first', second', accepted', -, wanted', reads', rfl⟩ := toSave'
  rw [accepted, Except.ok.injEq] at accepted'
  subst accepted'
  obtain ⟨rfl, rfl⟩ := reads.unique reads'
  exact ⟨Option.some.inj (wanted.symm.trans wanted'), rfl⟩

structure Outcome.Concludes (outcome : Outcome) (arguments : List String) (terminal : Bool)
    (input : Reader) (folder : Folder) : Prop where
  ending : Ending arguments input folder outcome.code outcome.errorOutput
  code_eq_zero_iff : outcome.code = 0 ↔ ∃ options, Options.ofArguments arguments = .ok options ∧
    (options.help = true ∨ (∃ current target, input.Reads options.layout (.ok current) (.ok target)) ∧
      options.Savable input folder)
  errorOutput_eq_empty_iff : outcome.errorOutput = "" ↔ outcome.code = 0
  /-- After a failed read it makes no difference whether the report can be saved. -/
  unread : ∀ options first second, Options.ofArguments arguments = .ok options →
    options.help = false → input.Reads options.layout first second →
    readFailure first second ≠ none →
    ∀ others options', Options.ofArguments others = .ok options' → options'.help = false →
      options'.layout = options.layout → ∀ terminal' folder',
        let outcome' := ofCommand others terminal' input folder'
        outcome'.code = outcome.code ∧ outcome'.errorOutput = outcome.errorOutput
  /-- Whatever the file held before, it holds the report of this run, or as much of it as there is room for. -/
  written : ∀ path text file name, ToSave arguments input path text → folder.opened path = .ok file →
    file.name = some name → outcome.folder.get? name = some (file.taken (bytes text))
  left_iff : ∀ name, folder.get? name = none →
    ((∃ path text, ToSave arguments input path text ∧ outcome.folder.get? name = some (bytes text)) ↔
      ∃ path text, ToSave arguments input path text ∧ folder.Keeps path name text)
  created_iff : ∀ name, folder.get? name = none →
    ((∃ content, outcome.folder.get? name = some content) ↔
      ∃ path text file, ToSave arguments input path text ∧ folder.opened path = .ok file ∧
        file.name = some name)
  kept : ∀ name, (∀ path text file, ToSave arguments input path text → folder.opened path = .ok file →
    file.name ≠ some name) → outcome.folder.get? name = folder.get? name
  /-- With refused arguments or a request for help nothing is read and nothing saved. -/
  idle : (∀ options, Options.ofArguments arguments = .ok options → options.help = true) →
    outcome.folder = folder ∧ ∀ other, ofCommand arguments terminal other folder = outcome

namespace Outcome

section Code

variable {outcome : Outcome}

theorem code_of_none (h : outcome.failure = none) : outcome.code = 0 := by
  simp [code, h]

theorem code_of_some {failure : Failure} (h : outcome.failure = some failure) : outcome.code = 1 := by
  simp [code, h]

theorem errorOutput_of_none (h : outcome.failure = none) : outcome.errorOutput = "" := by
  simp [errorOutput, h]

theorem errorOutput_of_some {failure : Failure} (h : outcome.failure = some failure) :
    outcome.errorOutput = unlines (errorLines failure.message failure.causes) := by
  simp [errorOutput, h, failure.report_eq_unlines]

private theorem code_eq_zero_iff_failure : outcome.code = 0 ↔ outcome.failure = none := by
  cases h : outcome.failure with
  | none => simp [code_of_none h]
  | some failure => simp [code_of_some h]

private theorem errorOutput_eq_empty_iff_failure : outcome.errorOutput = "" ↔ outcome.failure = none := by
  cases h : outcome.failure with
  | none => simp [errorOutput_of_none h]
  | some failure =>
    have first : outcome.errorOutput.toList.head? = some 'E' := by
      have report : outcome.errorOutput = failure.report := by simp [errorOutput, h]
      have parts : failure.report = "Error: " ++ failure.message ++ "\n" ++
        Failure.causeLines failure.causes := rfl
      simp [report, parts]
    constructor
    · intro empty
      rw [empty] at first
      exact nomatch first
    · exact nofun

end Code

section Idle

variable {arguments : List String} {terminal : Bool} {input : Reader} {folder : Folder}

private theorem ofCommand_of_refused {cause : OptionError}
    (refused : Options.ofArguments arguments = .error cause) :
    ofCommand arguments terminal input folder = ⟨"", folder, some (.options cause)⟩ := by
  simp [ofCommand, Request.ofArguments, refused]

private theorem ofCommand_of_help {options : Options}
    (accepted : Options.ofArguments arguments = .ok options) (help : options.help = true) :
    ofCommand arguments terminal input folder = ⟨Options.usage ++ "\n", folder, none⟩ := by
  simp [ofCommand, Request.ofArguments, accepted, help]

end Idle

section Accepted

variable {arguments : List String} {options : Options} {input : Reader}
  {first second : Except ReadError Grid}
  (accepted : Options.ofArguments arguments = .ok options) (noHelp : options.help = false)
  (reads : input.Reads options.layout first second) (terminal : Bool) (folder : Folder)

include accepted noHelp reads

theorem failure_of_unread {failure : Failure} (unread : readFailure first second = some failure) :
    (ofCommand arguments terminal input folder).failure = some failure := by
  rw [ofCommand_eq accepted noHelp reads, unread]
  rfl

private theorem failure_of_unsaved {path : String} {cause : SaveError} (read : readFailure first second = none)
    (wanted : options.report = some path)
    (refuses : folder.Refuses path (runReport first second).text cause) :
    (ofCommand arguments terminal input folder).failure = some (.saving cause) := by
  rw [ofCommand_eq accepted noHelp reads, read, wanted]
  exact congrArg (firstFailure none) (Report.fst_saveIn_of_refuses refuses)

theorem failure_of_finished (read : readFailure first second = none)
    (savable : options.Savable input folder) :
    (ofCommand arguments terminal input folder).failure = none := by
  rw [ofCommand_eq accepted noHelp reads, read]
  exact congrArg (firstFailure none) (savable.saved reads)

theorem failure_eq_none_iff : (ofCommand arguments terminal input folder).failure = none ↔
    readFailure first second = none ∧ options.Savable input folder := by
  constructor
  · intro finished
    cases read : readFailure first second with
    | some failure =>
      rw [failure_of_unread accepted noHelp reads terminal folder read] at finished
      exact nomatch finished
    | none =>
      refine ⟨rfl, (options.savable_or_refused reads folder).resolve_right ?_⟩
      rintro ⟨path, cause, wanted, refuses⟩
      rw [failure_of_unsaved accepted noHelp reads terminal folder read wanted refuses] at finished
      exact nomatch finished
  · rintro ⟨read, savable⟩
    exact failure_of_finished accepted noHelp reads terminal folder read savable

private theorem ending_of_accepted : Ending arguments input folder
    (ofCommand arguments terminal input folder).code
    (ofCommand arguments terminal input folder).errorOutput := by
  match first, second with
  | .error e, second =>
    have failure : (ofCommand arguments terminal input folder).failure = some (.reading .current e) :=
      failure_of_unread accepted noHelp reads terminal folder rfl
    rw [code_of_some failure, errorOutput_of_some failure]
    exact .currentUnread accepted noHelp reads
  | .ok current, .error e =>
    have failure : (ofCommand arguments terminal input folder).failure = some (.reading .target e) :=
      failure_of_unread accepted noHelp reads terminal folder rfl
    rw [code_of_some failure, errorOutput_of_some failure]
    exact .targetUnread accepted noHelp reads
  | .ok current, .ok target =>
    rcases options.savable_or_refused reads folder with savable | ⟨path, cause, wanted, refuses⟩
    · have failure : (ofCommand arguments terminal input folder).failure = none :=
        failure_of_finished accepted noHelp reads terminal folder rfl savable
      rw [code_of_none failure, errorOutput_of_none failure]
      exact .finished accepted noHelp reads savable
    · have failure : (ofCommand arguments terminal input folder).failure = some (.saving cause) :=
        failure_of_unsaved accepted noHelp reads terminal folder rfl wanted refuses
      rw [code_of_some failure, errorOutput_of_some failure]
      exact .unsaved accepted noHelp reads wanted refuses

theorem folder_of_reads : (ofCommand arguments terminal input folder).folder =
    ((runReport first second).saveIn folder options.report).2 := by
  rw [ofCommand_eq accepted noHelp reads]

end Accepted

section Whole

variable (arguments : List String) (terminal : Bool) (input : Reader) (folder : Folder)

private theorem ending_ofCommand : Ending arguments input folder
    (ofCommand arguments terminal input folder).code
    (ofCommand arguments terminal input folder).errorOutput := by
  cases parsed : Options.ofArguments arguments with
  | error cause =>
    have lines : ∀ message usage : String, unlines ["Error: " ++ (message ++ "\n" ++ usage)] =
        unlines ["Error: " ++ message, usage] := by
      intro message usage
      simp [unlines, String.append_assoc]
    have printed : unlines (errorLines (Failure.options cause).message (Failure.options cause).causes) =
        unlines ["Error: " ++ cause.message, Options.usage] := lines cause.message Options.usage
    rw [ofCommand_of_refused parsed, code_of_some rfl, errorOutput_of_some rfl, printed]
    exact .refused parsed
  | ok options =>
    cases help : options.help with
    | true =>
      rw [ofCommand_of_help parsed help, code_of_none rfl, errorOutput_of_none rfl]
      exact .helped parsed help
    | false =>
      obtain ⟨first, second, reads⟩ := input.exists_reads options.layout
      exact ending_of_accepted parsed help reads terminal folder

private theorem code_ofCommand_eq_zero_iff : (ofCommand arguments terminal input folder).code = 0 ↔
    ∃ options, Options.ofArguments arguments = .ok options ∧
      (options.help = true ∨
        (∃ current target, input.Reads options.layout (.ok current) (.ok target)) ∧
          options.Savable input folder) := by
  rw [code_eq_zero_iff_failure]
  cases parsed : Options.ofArguments arguments with
  | error cause => simp [ofCommand_of_refused parsed]
  | ok options =>
    cases help : options.help with
    | true => simp [ofCommand_of_help parsed help, help]
    | false =>
      obtain ⟨first, second, reads⟩ := input.exists_reads options.layout
      have both : readFailure first second = none ↔
          ∃ current target, input.Reads options.layout (.ok current) (.ok target) := by
        constructor
        · intro read
          match first, second with
          | .error _, _ | .ok _, .error _ => exact nomatch read
          | .ok current, .ok target => exact ⟨current, target, reads⟩
        · rintro ⟨current, target, others⟩
          obtain ⟨rfl, rfl⟩ := reads.unique others
          rfl
      rw [failure_eq_none_iff parsed help reads, both]
      simp [help]

variable {arguments terminal input folder} {path text name : String}

private theorem folder_of_toSave (toSave : ToSave arguments input path text) :
    ∃ report : Report, report.text = text ∧
      (ofCommand arguments terminal input folder).folder = (report.saveIn folder (some path)).2 := by
  obtain ⟨options, first, second, accepted, noHelp, wanted, reads, rfl⟩ := toSave
  exact ⟨_, rfl, wanted ▸ folder_of_reads accepted noHelp reads terminal folder⟩

private theorem folder_of_nothing_toSave (nothing : ∀ path text, ¬ ToSave arguments input path text) :
    (ofCommand arguments terminal input folder).folder = folder := by
  cases parsed : Options.ofArguments arguments with
  | error cause => rw [ofCommand_of_refused parsed]
  | ok options =>
    cases help : options.help with
    | true => rw [ofCommand_of_help parsed help]
    | false =>
      obtain ⟨first, second, reads⟩ := input.exists_reads options.layout
      rw [folder_of_reads parsed help reads]
      cases wanted : options.report with
      | none => rfl
      | some path => exact absurd ⟨options, first, second, parsed, help, wanted, reads, rfl⟩ (nothing path _)

private theorem get?_of_opened {file : OpenFile} (toSave : ToSave arguments input path text)
    (opened : folder.opened path = .ok file) (named : file.name = some name) :
    (ofCommand arguments terminal input folder).folder.get? name = some (file.taken (bytes text)) := by
  obtain ⟨report, rfl, saved⟩ := @folder_of_toSave _ terminal _ folder _ _ toSave
  rw [saved, Report.saveIn_of_opened opened]
  exact Folder.get?_holding_self named _

private theorem get?_of_not_opened (others : ∀ path text file, ToSave arguments input path text →
    folder.opened path = .ok file → file.name ≠ some name) :
    (ofCommand arguments terminal input folder).folder.get? name = folder.get? name := by
  by_cases some : ∃ path text, ToSave arguments input path text
  · obtain ⟨path, text, toSave⟩ := some
    obtain ⟨report, -, saved⟩ := @folder_of_toSave _ terminal _ folder _ _ toSave
    rw [saved]
    cases opened : folder.opened path with
    | error cause => rw [Report.saveIn_of_unopened opened]
    | ok file =>
      rw [Report.saveIn_of_opened opened]
      exact Folder.get?_holding_of_ne (others path text file toSave opened) _
  · simp only [not_exists] at some
    rw [folder_of_nothing_toSave some]

private theorem opened_of_created {content : List UInt8} (absent : folder.get? name = none)
    (present : (ofCommand arguments terminal input folder).folder.get? name = some content) :
    ∃ path text file, ToSave arguments input path text ∧ folder.opened path = .ok file ∧
      file.name = some name := by
  by_contra nowhere
  have others : ∀ path text file, ToSave arguments input path text →
      folder.opened path = .ok file → file.name ≠ some name := fun path text file toSave opened named =>
    nowhere ⟨path, text, file, toSave, opened, named⟩
  rw [get?_of_not_opened others, absent] at present
  exact nomatch present

private theorem report_left_iff (absent : folder.get? name = none) :
    (∃ path text, ToSave arguments input path text ∧
        (ofCommand arguments terminal input folder).folder.get? name = some (bytes text)) ↔
      ∃ path text, ToSave arguments input path text ∧ folder.Keeps path name text := by
  refine exists_congr fun path => exists_congr fun text => and_congr_right fun toSave => ?_
  constructor
  · intro present
    obtain ⟨path', text', file, toSave', opened, named⟩ := opened_of_created absent present
    obtain ⟨rfl, rfl⟩ := toSave.unique toSave'
    rw [get?_of_opened toSave opened named, Option.some.injEq] at present
    exact ⟨file, opened, named, OpenFile.fits_of_taken_eq present⟩
  · rintro ⟨file, opened, named, fits⟩
    rw [get?_of_opened toSave opened named, OpenFile.taken_of_fits fits]

variable (arguments terminal input folder)

/-- For all arguments, all input and every folder. -/
theorem concludes_ofCommand : (ofCommand arguments terminal input folder).Concludes arguments terminal
    input folder where
  ending := ending_ofCommand arguments terminal input folder
  code_eq_zero_iff := code_ofCommand_eq_zero_iff arguments terminal input folder
  errorOutput_eq_empty_iff :=
    errorOutput_eq_empty_iff_failure.trans code_eq_zero_iff_failure.symm
  unread := by
    intro options first second accepted noHelp reads unread others options' accepted' noHelp' layout
      terminal' folder' outcome'
    obtain ⟨failure, failed⟩ := Option.ne_none_iff_exists'.1 unread
    have here := failure_of_unread accepted noHelp reads terminal folder failed
    have there : outcome'.failure = some failure :=
      failure_of_unread accepted' noHelp' (layout ▸ reads) terminal' folder' failed
    rw [code_of_some here, code_of_some there, errorOutput_of_some here, errorOutput_of_some there]
    exact ⟨rfl, rfl⟩
  written _ _ _ _ := get?_of_opened
  left_iff _ := report_left_iff
  created_iff := by
    intro name absent
    constructor
    · rintro ⟨content, present⟩
      exact opened_of_created absent present
    · rintro ⟨path, text, file, toSave, opened, named⟩
      exact ⟨_, get?_of_opened toSave opened named⟩
  kept _ := get?_of_not_opened
  idle := by
    intro idle
    cases parsed : Options.ofArguments arguments with
    | error cause => exact ⟨by rw [ofCommand_of_refused parsed], fun other => by
        rw [ofCommand_of_refused parsed, ofCommand_of_refused parsed]⟩
    | ok options =>
      have help := idle options parsed
      exact ⟨by rw [ofCommand_of_help parsed help], fun other => by
        rw [ofCommand_of_help parsed help, ofCommand_of_help parsed help]⟩

end Whole

end Outcome

end GameOfLife

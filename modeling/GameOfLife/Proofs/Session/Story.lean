import GameOfLife.Proofs.Input.Wording
import GameOfLife.Proofs.Report.Document
import GameOfLife.Proofs.Session.Ending
import GameOfLife.Proofs.Session.Screen

/-!
The report of a run beside everything else the run gives away: the output, the error output and the exit
code. All of them tell the same story. What the report holds is compared with what a reader finds on the
other channels, not with what was meant to be written there.
-/

set_option autoImplicit false
set_option relaxedAutoImplicit false

namespace GameOfLife

open Text
open Json (Datum)
open Report (recordOf)

def Report.holding (error : Datum) (grids : List Datum) (isNext : Datum)
    (mismatches : List (Nat × Nat)) (successor : Datum) : Datum :=
  .object [
    ("error", error),
    ("grids", .array grids),
    ("is_next_state", isNext),
    ("mismatches", .array (mismatches.map fun place => .array [.number place.1, .number place.2])),
    ("successor", successor)]

/-- A run that failed for want of a state, with the chain of reasons that it prints: no verdict, the exit
code one, and the chain line by line on the error output. -/
structure Outcome.Unread (outcome : Outcome) (stream : List Arrival) (chain : List String) : Prop where
  code : outcome.code = 1
  verdicts : verdicts outcome.output = []
  printed : Plainspoken stream → chain? outcome.errorOutput = some chain

/-- A run that gave a verdict, which stands on the output alone, below the states as they were read. -/
structure Outcome.Answered (outcome : Outcome) (current target : Grid) (isNext : Bool) : Prop where
  code : outcome.code = 0
  errorOutput : outcome.errorOutput = ""
  current : boardUnder "t0" outcome.output = current.rows
  target : boardUnder "t1" outcome.output = target.rows
  verdicts : verdicts outcome.output =
    [if isNext then "t1 is the next state of t0." else "t1 is not the next state of t0."]

/-- The stories that an outcome and the document of its report can tell, given the results of the reads. -/
inductive Story (outcome : Outcome) (stream : List Arrival) :
    Except ReadError Grid → Except ReadError Grid → Datum → Prop
  | currentUnread {e : ReadError} {second : Except ReadError Grid} {chain : List String} :
      chain = "failed to read the current state (t0)" :: e.message :: e.cause?.toList →
      outcome.Unread stream chain →
      Story outcome stream (.error e) second
        (Report.holding (.string (": ".intercalate chain)) [] .null [] .null)
  | targetUnread {current : Grid} {e : ReadError} {chain : List String} :
      chain = "failed to read the target state (t1)" :: e.message :: e.cause?.toList →
      outcome.Unread stream chain →
      Story outcome stream (.ok current) (.error e)
        (Report.holding (.string (": ".intercalate chain)) [recordOf "t0" current.rows] .null [] .null)
  | answered {current target : Grid} {isNext : Bool} :
      (isNext = true ↔ target.Follows current) → outcome.Answered current target isNext →
      Story outcome stream (.ok current) (.ok target)
        (Report.holding .null [recordOf "t0" current.rows, recordOf "t1" target.rows] (.bool isNext)
          (check current target).mismatches (recordOf "next(t0)" current.next.rows))

/-- What the report of a run is decoded to, given the results of its reads. -/
def retold : Except ReadError Grid → Except ReadError Grid → Datum
  | .error e, _ =>
    Report.holding (.string (Failure.reading .current e).summary) [] .null [] .null
  | .ok current, .error e =>
    Report.holding (.string (Failure.reading .target e).summary) [recordOf "t0" current.rows] .null []
      .null
  | .ok current, .ok target =>
    Report.holding .null [recordOf "t0" current.rows, recordOf "t1" target.rows]
      (.bool (check current target).isNext) (check current target).mismatches
      (recordOf "next(t0)" current.next.rows)

private theorem document_runReport (first second : Except ReadError Grid) :
    Report.document (runReport first second) = retold first second := by
  match first, second with
  | .error _, _ | .ok _, .error _ | .ok _, .ok _ => rfl

private theorem oneLine_of_readFailure {stream : List Arrival} (plain : Plainspoken stream) {layout : Layout}
    {first second : Except ReadError Grid} (reads : (Reader.ofStream stream).Reads layout first second)
    {state : Role} {e : ReadError} (failed : readFailure first second = some (.reading state e)) :
    e.OneLine := by
  obtain ⟨after, results⟩ := reads
  have worded := Reader.oneLine_of_mem_readAll (Reader.oneLined_ofStream plain) [layout, layout] e
  rw [results] at worded
  match first, second with
  | .error _, _ =>
    cases failed
    exact worded List.mem_cons_self
  | .ok _, .error _ =>
    cases failed
    exact worded (List.mem_cons_of_mem _ List.mem_cons_self)
  | .ok _, .ok _ => exact nomatch failed

namespace Outcome

section Accepted

variable {arguments : List String} {options : Options} {stream : List Arrival}
  {first second : Except ReadError Grid} {current target : Grid}
  (accepted : Options.ofArguments arguments = .ok options) (noHelp : options.help = false)
  (terminal : Bool) (folder : Folder)

include accepted noHelp

private theorem unread_of_readFailure (reads : (Reader.ofStream stream).Reads options.layout first second)
    {state : Role} {e : ReadError} (failed : readFailure first second = some (.reading state e)) :
    (ofCommand arguments terminal (.ofStream stream) folder).Unread stream
      (("failed to read the " ++ state.description) :: e.message :: e.cause?.toList) := by
  have failure := failure_of_unread accepted noHelp reads terminal folder failed
  refine ⟨code_of_some failure, ?_, ?_⟩
  · have unanswered : answer? first second = none := by
      match first, second with
      | .error _, _ | .ok _, .error _ => rfl
      | .ok _, .ok _ => exact nomatch failed
    rw [output_ofCommand_of_reads accepted noHelp reads terminal folder, verdicts_told, unanswered]
    rfl
  · intro plain
    have message : '\n' ∉ ("failed to read the " ++ state.description).toList := by
      cases state <;> decide
    have causes := oneLine_of_readFailure plain reads failed
    rw [errorOutput_of_some failure]
    exact chain?_errorLines (List.forall_mem_cons.2 ⟨message, causes⟩)

private theorem answered_of_reads
    (reads : (Reader.ofStream stream).Reads options.layout (.ok current) (.ok target))
    (savable : options.Savable (.ofStream stream) folder) :
    (ofCommand arguments terminal (.ofStream stream) folder).Answered current target
      (check current target).isNext := by
  have finished := failure_of_finished accepted noHelp reads terminal folder rfl savable
  have written := output_ofCommand_of_reads accepted noHelp reads terminal folder
  refine ⟨code_of_none finished, errorOutput_of_none finished, ?_, ?_, ?_⟩
  · rw [written, boardUnder_current]
  · rw [written, boardUnder_target]
  · rw [written, verdicts_told]
    rfl

private theorem story_of_reads (reads : (Reader.ofStream stream).Reads options.layout first second)
    (savable : options.Savable (.ofStream stream) folder) :
    Story (ofCommand arguments terminal (.ofStream stream) folder) stream first second
      (retold first second) := by
  match first, second with
  | .error e, second =>
    exact .currentUnread rfl (unread_of_readFailure accepted noHelp terminal folder reads rfl)
  | .ok current, .error e =>
    exact .targetUnread rfl (unread_of_readFailure accepted noHelp terminal folder reads rfl)
  | .ok current, .ok target =>
    exact .answered isNext_check_iff_follows
      (answered_of_reads accepted noHelp terminal folder reads savable)

end Accepted

/-- Whenever a report is wanted and its file can be created and written, it is there after the run and can be
decoded, and it tells of the two reads what the output, the error output and the exit code tell of them. -/
theorem story_ofCommand {arguments : List String} {options : Options} {path : String}
    (accepted : Options.ofArguments arguments = .ok options) (noHelp : options.help = false)
    (wanted : options.report = some path) (terminal : Bool) (stream : List Arrival) (folder : Folder) :
    let outcome := ofCommand arguments terminal (.ofStream stream) folder
    ∃ first second, (Reader.ofStream stream).Reads options.layout first second ∧
      ∀ name, folder.Keeps path name (runReport first second).text →
        ∃ text document, outcome.folder.get? name = some (bytes text) ∧
          Json.decode text = some document ∧ Story outcome stream first second document := by
  intro outcome
  obtain ⟨first, second, reads⟩ := (Reader.ofStream stream).exists_reads options.layout
  refine ⟨first, second, reads, ?_⟩
  intro name keeps
  have savable : options.Savable (.ofStream stream) folder :=
    Options.savable_of_accepts wanted reads keeps.accepts
  have saved : outcome.folder.get? name = some (bytes (runReport first second).text) := by
    rw [folder_of_reads accepted noHelp reads terminal folder, wanted]
    exact Report.get?_saveIn_of_keeps keeps
  refine ⟨_, _, saved, Report.decode_text _, ?_⟩
  rw [document_runReport]
  exact story_of_reads accepted noHelp terminal folder reads savable

/-- The input breaks off behind the first state, and the report goes into a folder further down. -/
theorem story_ofCommand_broken :
    let stream := (bytes "0 1\n\n").map .byte ++
      [.fault ⟨.named "IsADirectory", "Is a directory (os error 21)"⟩]
    let folder : Folder := { system := .tree [["work"], ["work", "out"]] ["work"] }
    let outcome := ofCommand ["--report", "./out//r.json"] false (.ofStream stream) folder
    Options.ofArguments ["--report", "./out//r.json"] = .ok { report := some "./out//r.json" } ∧
      folder.opened "./out//r.json" = .ok ⟨some "out/r.json", none⟩ ∧
      chain? outcome.errorOutput = some ["failed to read the target state (t1)",
        "could not read input", "Is a directory (os error 21)"] ∧
      ∃ text, outcome.folder.get? "out/r.json" = some (bytes text) ∧
        Json.decode text = some (Report.holding (.string ("failed to read the target state (t1): " ++
          "could not read input: Is a directory (os error 21)"))
          [recordOf "t0" [[.dead, .alive]]] .null [] .null) := by
  intro stream folder outcome
  have accepted : Options.ofArguments ["--report", "./out//r.json"] =
      .ok { report := some "./out//r.json" } := by decide
  have opened : folder.opened "./out//r.json" = .ok ⟨some "out/r.json", none⟩ := by decide
  have plain : Plainspoken stream := by
    intro fault member
    have same : fault = ⟨.named "IsADirectory", "Is a directory (os error 21)"⟩ := by
      simpa [stream] using member
    subst same
    decide
  have known : (Reader.ofStream stream).Reads .plain
      (.ok (.ofFn 2 1 (by decide) (by decide) fun _ col => if col = 0 then .dead else .alive))
      (.error (.io ⟨.named "IsADirectory", "Is a directory (os error 21)"⟩)) := ⟨⟨[], 2⟩, by decide⟩
  obtain ⟨first, second, reads, told⟩ := story_ofCommand accepted rfl rfl false stream folder
  obtain ⟨text, document, saved, decoded, story⟩ :=
    told "out/r.json" ⟨_, opened, rfl, OpenFile.fits_of_limit_eq_none rfl⟩
  obtain ⟨rfl, rfl⟩ := reads.unique known
  cases story with
  | @targetUnread _ _ chain wording unread =>
    subst wording
    exact ⟨accepted, opened, unread.printed plain, text, saved, decoded⟩

end Outcome

end GameOfLife

import GameOfLife.Proofs.Report.Document

/-!
What is left of a history. A report that is kept while things happen, and saved any number of times, says in
the end what grids there were and what came last of everything else. So its file tells nothing of earlier
saves, of the order among entries of different kinds, of entries that were replaced, or of what the file held
before; and without a path for it there is no file.
-/

set_option autoImplicit false
set_option relaxedAutoImplicit false

namespace GameOfLife

open Text (bytes)

inductive Event where
  | grid (label : String) (rows : List (List Cell))
  | successor (rows : List (List Cell))
  | verdict (isNext : Bool) (mismatches : List (Nat × Nat))
  | error (message : String)
  | save

namespace Event

/-- What an event adds to the report. Rows that are no grid add nothing. -/
def entry? : Event → Option Entry
  | grid label rows => (Grid.ofRows rows).toOption.map (.grid label)
  | successor rows => (Grid.ofRows rows).toOption.map .successor
  | verdict isNext mismatches => some (.verdict isNext mismatches)
  | error message => some (.error message)
  | save => none

def step? : Event → Option RecorderStep
  | save => some .save
  | event => event.entry?.map .log

private theorem entry?_of_step? (event : Event) : event.step?.bind RecorderStep.entry? = event.entry? := by
  have logged : ∀ entry : Option Entry, (entry.map RecorderStep.log).bind RecorderStep.entry? = entry := by
    intro entry
    cases entry <;> rfl
  cases event with
  | grid label rows => exact logged _
  | successor rows => exact logged _
  | _ => rfl

end Event

def added (events : List Event) : List Entry :=
  events.filterMap Event.entry?

inductive Entry.Kind where
  | grid
  | successor
  | verdict
  | error
  deriving DecidableEq

def Entry.kind : Entry → Entry.Kind
  | grid _ _ => .grid
  | successor _ => .successor
  | verdict _ _ => .verdict
  | error _ => .error

/-- The recorder that is left after events, beginning with nothing recorded. -/
def Recorder.after (path : Option String) (folder : Folder) (events : List Event) : Recorder :=
  (Recorder.mk path {} folder).run (events.filterMap Event.step?)

namespace Report

/-- Entries that leave the same contents: the same grids in the same order, and the same last successor, last
verdict and last error. -/
structure Agree (entries others : List Entry) : Prop where
  grids : entries.filterMap Entry.grid? = others.filterMap Entry.grid?
  successor : last Entry.successor? entries = last Entry.successor? others
  verdict : last Entry.verdict? entries = last Entry.verdict? others
  error : last Entry.error? entries = last Entry.error? others

def Finds {α : Type} (select : Entry → Option α) (kind : Entry.Kind) : Prop :=
  ∀ entry, select entry = none ↔ entry.kind ≠ kind

section Contents

variable {α : Type} {select : Entry → Option α} {kind : Entry.Kind} {entry : Entry}
  {before after entries others : List Entry}

private theorem finds_grid : Finds Entry.grid? .grid := by
  intro entry
  cases entry <;> simp [Entry.grid?, Entry.kind]

private theorem finds_successor : Finds Entry.successor? .successor := by
  intro entry
  cases entry <;> simp [Entry.successor?, Entry.kind]

private theorem finds_verdict : Finds Entry.verdict? .verdict := by
  intro entry
  cases entry <;> simp [Entry.verdict?, Entry.kind]

private theorem finds_error : Finds Entry.error? .error := by
  intro entry
  cases entry <;> simp [Entry.error?, Entry.kind]

private theorem Finds.filterMap_filter (finds : Finds select kind) (entries : List Entry) :
    (entries.filter (·.kind = kind)).filterMap select = entries.filterMap select := by
  rw [List.filterMap_filter]
  refine List.filterMap_congr ?_
  intro entry _
  by_cases same : entry.kind = kind
  · rw [if_pos (decide_eq_true same)]
  · rw [(finds entry).2 same, ite_self]

private theorem Finds.filterMap_congr (finds : Finds select kind)
    (same : entries.filter (·.kind = kind) = others.filter (·.kind = kind)) :
    entries.filterMap select = others.filterMap select := by
  rw [← finds.filterMap_filter entries, ← finds.filterMap_filter others, same]

private theorem Finds.last_insert (finds : Finds select kind) (replaced : ∃ later ∈ after, later.kind = entry.kind) :
    last select (before ++ entry :: after) = last select (before ++ after) := by
  have cut : before ++ entry :: after = before ++ ([entry] ++ after) := rfl
  rw [cut, last_append, last_append, last_append, last_singleton]
  by_cases same : entry.kind = kind
  · obtain ⟨later, member, alike⟩ := replaced
    have present : last select after ≠ none := fun absent =>
      (finds later).1 (last_eq_none_iff.1 absent later member) (alike.trans same)
    obtain ⟨value, found⟩ := Option.ne_none_iff_exists'.1 present
    simp only [found, Option.some_or]
  · rw [(finds entry).2 same, Option.or_none]

private theorem agree_of_kinds
    (same : ∀ kind, entries.filter (·.kind = kind) = others.filter (·.kind = kind)) :
    Agree entries others where
  grids := finds_grid.filterMap_congr (same .grid)
  successor := congrArg List.getLast? (finds_successor.filterMap_congr (same .successor))
  verdict := congrArg List.getLast? (finds_verdict.filterMap_congr (same .verdict))
  error := congrArg List.getLast? (finds_error.filterMap_congr (same .error))

private theorem agree_insert (notGrid : entry.kind ≠ .grid) (replaced : ∃ later ∈ after, later.kind = entry.kind) :
    Agree (before ++ entry :: after) (before ++ after) where
  grids := by
    rw [List.filterMap_append, List.filterMap_append,
      List.filterMap_cons_none ((finds_grid entry).2 notGrid)]
  successor := finds_successor.last_insert replaced
  verdict := finds_verdict.last_insert replaced
  error := finds_error.last_insert replaced

private theorem logged_eq_of_agree (agree : Agree entries others) : logged entries = logged others := by
  rw [logged, logged, agree.grids, agree.successor, agree.verdict, agree.error]

end Contents

section Saved

variable {path name : String} {before after events others : List Event} {event : Event}

def savedAfter? (folder : Folder) (path name : String) (events : List Event) : Option (List UInt8) :=
  (Recorder.after (some path) folder events).leaves? name

/-- Whether a save after events can create and write the file of the report. -/
def KeptAfter (folder : Folder) (path name : String) (events : List Event) : Prop :=
  (Recorder.after (some path) folder events).folder.Keeps path name (logged (added events)).text

/-- Whether two histories, in whatever folders, end with the same bytes in the file of the report, provided that
it can be created and written at the end of each. -/
def SameFile (path name : String) (folder : Folder) (events : List Event) (folder' : Folder)
    (others : List Event) : Prop :=
  KeptAfter folder path name events → KeptAfter folder' path name others →
    ∃ text, savedAfter? folder path name events = some (bytes text) ∧
      savedAfter? folder' path name others = some (bytes text)

private theorem savedAfter?_eq {folder : Folder} (kept : KeptAfter folder path name events) :
    savedAfter? folder path name events = some (bytes (logged (added events)).text) := by
  have entries : (events.filterMap Event.step?).filterMap RecorderStep.entry? = added events := by
    rw [List.filterMap_filterMap, funext Event.entry?_of_step?]
    rfl
  exact leaves?_run entries kept

private theorem sameFile_of_agree (agree : Agree (added events) (added others)) (folder folder' : Folder) :
    SameFile path name folder events folder' others := by
  intro kept kept'
  refine ⟨_, savedAfter?_eq kept, ?_⟩
  rw [savedAfter?_eq kept', logged_eq_of_agree agree]

private theorem added_insert_of_none (nothing : event.entry? = none) (before after : List Event) :
    added (before ++ event :: after) = added (before ++ after) := by
  rw [added, added, List.filterMap_append, List.filterMap_append, List.filterMap_cons_none nothing]

private theorem agree_added_insert_of_none (nothing : event.entry? = none) (before after : List Event) :
    Agree (added (before ++ event :: after)) (added (before ++ after)) := by
  rw [added_insert_of_none nothing]
  exact ⟨rfl, rfl, rfl, rfl⟩

private theorem agree_added_insert_of_replaced {entry : Entry} (adds : event.entry? = some entry)
    (notGrid : entry.kind ≠ .grid) (replaced : ∃ later ∈ added after, later.kind = entry.kind)
    (before : List Event) : Agree (added (before ++ event :: after)) (added (before ++ after)) := by
  have added' : added (before ++ event :: after) = added before ++ entry :: added after := by
    rw [added, List.filterMap_append, List.filterMap_cons_some adds]
    rfl
  have without : added (before ++ after) = added before ++ added after := List.filterMap_append
  rw [added', without]
  exact agree_insert notGrid replaced

end Saved

section Writable

variable {path name : String}

private theorem system_run (recorder : Recorder) (steps : List RecorderStep) :
    (recorder.run steps).folder.system = recorder.folder.system := by
  induction steps generalizing recorder with
  | nil => rfl
  | cons step steps ih => exact (ih (recorder.step step)).trans (recorder.system_step step)

private theorem keptAfter_of_writable {folder : Folder} (writable : folder.system.Writable path name)
    (events : List Event) : KeptAfter folder path name events := by
  apply Folder.keeps_of_writable
  have system : (Recorder.after (some path) folder events).folder.system = folder.system :=
    system_run _ _
  rwa [system]

end Writable

section Unnamed

variable {recorder : Recorder}

private theorem save_of_path_eq_none (unnamed : recorder.path = none) : recorder.save = (.ok (), recorder) := by
  cases recorder
  subst unnamed
  rfl

private theorem folder_run_of_path_eq_none (unnamed : recorder.path = none) (steps : List RecorderStep) :
    (recorder.run steps).folder = recorder.folder := by
  induction steps generalizing recorder with
  | nil => rfl
  | cons step steps ih =>
    have kept : (recorder.step step).folder = recorder.folder := by
      cases step with
      | log entry => rfl
      | save => rw [Recorder.step, save_of_path_eq_none unnamed]
    exact (ih ((recorder.path_step step).trans unnamed)).trans kept

private theorem save_after_none (folder : Folder) (events : List Event) :
    (Recorder.after none folder events).save = (.ok (), Recorder.after none folder events) :=
  save_of_path_eq_none (path_run _ _)

end Unnamed

/-- The file of a report follows from the grids in their order and the last successor, verdict and error, down to
the last byte. In particular it makes no difference what the file held before, how often and when the report
was saved, how entries of different kinds were mixed, whether entries that were replaced had been there at all,
or whether rows turned up that are no grid. All this holds under a path that is always writable, and whenever the
last save succeeds. Without a path no file is written, and nothing fails. -/
theorem savedAfter?_determined (path name : String) :
    (∀ folder : Folder, folder.system.Writable path name → ∀ events, KeptAfter folder path name events) ∧
    (∀ events, ∃ text, ∀ folder, KeptAfter folder path name events →
      savedAfter? folder path name events = some (bytes text)) ∧
    (∀ events others, Agree (added events) (added others) → ∀ folder folder',
      SameFile path name folder events folder' others) ∧
    (∀ folder before after,
      SameFile path name folder (before ++ .save :: after) folder (before ++ after)) ∧
    (∀ folder events others,
      (∀ kind, (added events).filter (·.kind = kind) = (added others).filter (·.kind = kind)) →
      SameFile path name folder events folder others) ∧
    (∀ folder before event after entry, Event.entry? event = some entry → entry.kind ≠ .grid →
      (∃ later ∈ added after, later.kind = entry.kind) →
      SameFile path name folder (before ++ event :: after) folder (before ++ after)) ∧
    (∀ folder before after label rows e, Grid.ofRows rows = .error e →
      ∀ event ∈ [Event.grid label rows, Event.successor rows],
        SameFile path name folder (before ++ event :: after) folder (before ++ after)) ∧
    ∀ folder events, (Recorder.after none folder events).folder = folder ∧
      (Recorder.after none folder events).save = (.ok (), Recorder.after none folder events) := by
  refine ⟨?_, ?_, ?_, ?_, ?_, ?_, ?_, ?_⟩
  · exact fun folder writable events => keptAfter_of_writable writable events
  · exact fun events => ⟨_, fun folder kept => savedAfter?_eq kept⟩
  · exact fun _ _ agree folder folder' => sameFile_of_agree agree folder folder'
  · exact fun folder before after => sameFile_of_agree (agree_added_insert_of_none rfl before after) _ _
  · exact fun folder _ _ same => sameFile_of_agree (agree_of_kinds same) folder folder
  · exact fun folder before _ _ _ adds notGrid replaced =>
      sameFile_of_agree (agree_added_insert_of_replaced adds notGrid replaced before) _ _
  · intro folder before after label rows e noGrid event member
    have nothing : event.entry? = none := by
      simp only [List.mem_cons, List.not_mem_nil, or_false] at member
      rcases member with rfl | rfl <;> simp [Event.entry?, noGrid, Except.toOption]
    exact sameFile_of_agree (agree_added_insert_of_none nothing before after) _ _
  · intro folder events
    exact ⟨folder_run_of_path_eq_none rfl _, save_after_none folder events⟩

/-- A verdict that was replaced, a save in between and a row that is too short leave no trace, nor does a longer
report that was in the file. -/
theorem savedAfter?_determined_replaced :
    let system : FileSystem := .tree [["tmp"], ["work"]] ["work"]
    let path := "/tmp/report.json"
    let longer := bytes "A longer report than the one that follows."
    let events := [Event.verdict false [(0, 1)], .grid "t0" [[.alive]], .save, .successor [[.alive], []],
      .verdict true []]
    let others := [Event.verdict true [], .grid "t0" [[.alive]]]
    system.Writable path path ∧ Agree (added events) (added others) ∧
      ∃ text, savedAfter? ⟨[(path, longer)], system⟩ path path events = some (bytes text) ∧
        savedAfter? ⟨[], system⟩ path path others = some (bytes text) := by
  intro system path longer events others
  have place : FileSystem.place [["tmp"], ["work"]] ["work"] path = .ok ["tmp", "report.json"] := by decide
  have writable : system.Writable path path := by
    intro contents
    simp only [system, FileSystem.tree, place]
    rfl
  have agree : Agree (added events) (added others) := ⟨rfl, rfl, rfl, rfl⟩
  obtain ⟨kept, -, determined, -⟩ := savedAfter?_determined path path
  exact ⟨writable, agree, determined events others agree _ _ (kept _ writable events) (kept _ writable others)⟩

end Report

end GameOfLife

import GameOfLife.Grid.Lemmas
import GameOfLife.Proofs.Json.RoundTrip
import GameOfLife.Proofs.Saving
import Mathlib.Data.List.Basic
import Mathlib.Data.List.Induction

/-!
What a saved report says. A report keeps every grid that was logged and the last of everything else, and
the text that is saved decodes to an object with exactly these contents. So the text determines them, and
the labels and messages, whatever they are, are texts in it and nothing else.
-/

set_option autoImplicit false
set_option relaxedAutoImplicit false

namespace GameOfLife

open Text (bytes decode? decode?_bytes)

namespace Json.Datum

mutual

/-- A datum without its texts. The names of members are part of what is left. -/
def shape : Datum → Datum
  | null => null
  | bool value => bool value
  | number value => number value
  | string _ => string ""
  | array elements => array (elementShapes elements)
  | object members => object (memberShapes members)

def elementShapes : List Datum → List Datum
  | [] => []
  | element :: rest => element.shape :: elementShapes rest

def memberShapes : List (String × Datum) → List (String × Datum)
  | [] => []
  | (name, value) :: rest => (name, value.shape) :: memberShapes rest

end

theorem elementShapes_eq_map (elements : List Datum) : elementShapes elements = elements.map shape := by
  induction elements with
  | nil => rfl
  | cons element rest ih => simp only [elementShapes, ih, List.map_cons]

end Json.Datum

namespace Entry

def grid? : Entry → Option (String × Grid)
  | .grid label g => some (label, g)
  | _ => none

def successor? : Entry → Option Grid
  | .successor g => some g
  | _ => none

def verdict? : Entry → Option (Bool × List (Nat × Nat))
  | .verdict isNext mismatches => some (isNext, mismatches)
  | _ => none

def error? : Entry → Option String
  | .error message => some message
  | _ => none

def unworded : Entry → Entry
  | .grid _ g => .grid "" g
  | .error _ => .error ""
  | entry => entry

end Entry

def RecorderStep.entry? : RecorderStep → Option Entry
  | .log entry => some entry
  | .save => none

namespace Report

section Contents

def last {α : Type} (select : Entry → Option α) (entries : List Entry) : Option α :=
  (entries.filterMap select).getLast?

def logged (entries : List Entry) : Report where
  grids := entries.filterMap Entry.grid?
  successor := last Entry.successor? entries
  isNext := (last Entry.verdict? entries).map Prod.fst
  mismatches := ((last Entry.verdict? entries).map Prod.snd).getD []
  error := last Entry.error? entries

theorem last_append {α : Type} (select : Entry → Option α) (entries others : List Entry) :
    last select (entries ++ others) = (last select others).or (last select entries) := by
  rw [last, List.filterMap_append, List.getLast?_append, ← last, ← last]

theorem last_singleton {α : Type} (select : Entry → Option α) (entry : Entry) :
    last select [entry] = select entry := by
  cases chosen : select entry <;> simp [last, chosen]

private theorem last_concat {α : Type} (select : Entry → Option α) (entries : List Entry) (entry : Entry) :
    last select (entries ++ [entry]) = (select entry).or (last select entries) := by
  rw [last_append, last_singleton]

theorem last_eq_none_iff {α : Type} {select : Entry → Option α} {entries : List Entry} :
    last select entries = none ↔ ∀ entry ∈ entries, select entry = none := by
  rw [last, List.getLast?_eq_none_iff, List.filterMap_eq_nil_iff]

private theorem log_logged (entries : List Entry) (entry : Entry) :
    (logged entries).log entry = logged (entries ++ [entry]) := by
  cases entry <;>
    simp [logged, log, last_concat, Entry.grid?, Entry.successor?, Entry.verdict?, Entry.error?]

private theorem foldl_log (entries : List Entry) : entries.foldl log {} = logged entries := by
  induction entries using List.reverseRecOn with
  | nil => rfl
  | append_singleton entries entry ih =>
    rw [List.foldl_append, ih, List.foldl_cons, List.foldl_nil, log_logged]

end Contents

open Json (Datum)

section Document

def optional {α : Type} (encode : α → Datum) (value : Option α) : Datum :=
  value.elim .null encode

def bit (cell : Cell) : Datum :=
  .number (if cell = .alive then 1 else 0)

def recordOf (label : String) (rows : List (List Cell)) : Datum :=
  .object [
    ("cells", .array (rows.map fun row => .array (row.map bit))),
    ("height", .number rows.length),
    ("label", .string label),
    ("population", .number (rows.flatten.count .alive)),
    ("width", .number (rows.headD []).length)]

def boards (report : Report) : List Grid :=
  report.grids.map Prod.snd ++ report.successor.toList

def document (report : Report) : Datum :=
  .object [
    ("error", optional .string report.error),
    ("grids", .array (report.grids.map fun entry => recordOf entry.1 entry.2.rows)),
    ("is_next_state", optional .bool report.isNext),
    ("mismatches", .array (report.mismatches.map fun place =>
      .array [.number place.1, .number place.2])),
    ("successor", optional (fun g => recordOf "next(t0)" g.rows) report.successor)]

private theorem datum_ofList {α : Type} (encode : α → Json.Value) (values : List α) :
    (Json.Value.ofList encode values).datum = .array (values.map fun value => (encode value).datum) := by
  simp [Json.Value.ofList, Json.Value.datum, Json.Value.elementData_eq_map]

private theorem datum_ofOption {α : Type} (encode : α → Json.Value) (value : Option α) :
    (Json.Value.ofOption encode value).datum = optional (fun value => (encode value).datum) value := by
  cases value <;> simp [Json.Value.ofOption, optional, Json.Value.datum]

private theorem number_toNat (cell : Cell) : Datum.number cell.toNat = bit cell := by
  cases cell <;> simp [Cell.toNat, bit]

private theorem datum_gridRecord (label : String) (g : Grid) :
    (gridRecord label g).datum = recordOf label g.rows := by
  rw [recordOf, g.length_rows, g.count_alive_flatten_rows, g.length_headD_rows]
  simp only [gridRecord, Json.Value.datum, Json.Value.memberData, datum_ofList, number_toNat]

theorem decode_text (report : Report) : Json.decode report.text = some (document report) := by
  rw [text, Json.decode_print]
  simp [toJson, document, Json.Value.datum, Json.Value.memberData, Json.Value.elementData, datum_ofList,
    datum_ofOption, datum_gridRecord, coordinateRecord, successorLabel]

end Document

section Injectivity

private theorem optional_injective {α : Type} {encode : α → Datum} (injective : Function.Injective encode)
    (proper : ∀ value, encode value ≠ .null) : Function.Injective (optional encode) := by
  intro a b h
  cases a with
  | none =>
    cases b with
    | none => rfl
    | some b => exact absurd h.symm (proper b)
  | some a =>
    cases b with
    | none => exact absurd h (proper a)
    | some b => exact congrArg some (injective h)

private theorem eq_of_recordOf_eq {label other : String} {a b : Grid}
    (h : recordOf label a.rows = recordOf other b.rows) : label = other ∧ a = b := by
  have cell : Function.Injective bit := by
    intro c d same
    cases c <;> cases d <;> simp [bit] at same ⊢
  have line : Function.Injective fun row : List Cell => Datum.array (row.map bit) := fun _ _ same =>
    List.map_injective_iff.mpr cell (Datum.array.inj same)
  simp only [recordOf, Datum.object.injEq, List.cons.injEq, Prod.mk.injEq, Datum.array.injEq,
    Datum.string.injEq, true_and] at h
  obtain ⟨cells, -, labels, -⟩ := h
  exact ⟨labels, Grid.rows_injective (List.map_injective_iff.mpr line cells)⟩

private theorem document_injective : Function.Injective document := by
  intro a b h
  have entry : Function.Injective fun entry : String × Grid => recordOf entry.1 entry.2.rows :=
    fun _ _ same => Prod.ext_iff.mpr (eq_of_recordOf_eq same)
  have place : Function.Injective fun place : Nat × Nat =>
      Datum.array [.number place.1, .number place.2] := by
    intro p q same
    simpa [Prod.ext_iff] using same
  have message : Function.Injective (optional Datum.string) :=
    optional_injective (fun _ _ => Datum.string.inj) nofun
  have answer : Function.Injective (optional Datum.bool) :=
    optional_injective (fun _ _ => Datum.bool.inj) nofun
  have board : Function.Injective (optional fun g : Grid => recordOf "next(t0)" g.rows) :=
    optional_injective (fun _ _ same => (eq_of_recordOf_eq same).2) nofun
  simp only [document, Datum.object.injEq, List.cons.injEq, Prod.mk.injEq, Datum.array.injEq,
    true_and, and_true] at h
  obtain ⟨errors, grids, answers, places, boards⟩ := h
  cases a
  cases b
  simp only [Report.mk.injEq]
  exact ⟨List.map_injective_iff.mpr entry grids, board boards, answer answers,
    List.map_injective_iff.mpr place places, message errors⟩

end Injectivity

section Words

def unworded (report : Report) : Report :=
  { report with
    grids := report.grids.map fun entry => ("", entry.2)
    error := report.error.map fun _ => "" }

private theorem log_unworded (report : Report) (entry : Entry) :
    report.unworded.log entry.unworded = (report.log entry).unworded := by
  cases entry <;> simp [log, unworded, Entry.unworded]

private theorem logged_unworded (entries : List Entry) :
    logged (entries.map Entry.unworded) = (logged entries).unworded := by
  induction entries using List.reverseRecOn with
  | nil => rfl
  | append_singleton entries entry ih =>
    rw [List.map_append, List.map_singleton, ← log_logged, ih, log_unworded, log_logged]

private theorem shape_recordOf (label : String) (rows : List (List Cell)) :
    (recordOf label rows).shape = (recordOf "" rows).shape := by
  simp only [recordOf, Datum.shape, Datum.memberShapes]

private theorem shape_document_unworded (report : Report) :
    (document report.unworded).shape = (document report).shape := by
  have message : (optional .string (report.error.map fun _ => "")).shape =
      (optional .string report.error).shape := by
    cases report.error <;> rfl
  simp [document, unworded, Datum.shape, Datum.memberShapes, Datum.elementShapes_eq_map, message,
    shape_recordOf]

end Words

section Saving

private theorem bytes_injective : Function.Injective bytes := by
  intro text other same
  have decoded := congrArg decode? same
  rwa [decode?_bytes, decode?_bytes, Option.some.injEq] at decoded

/-- What is in a file after entries are logged and the report is saved under a path, if it can be saved. -/
def saved? (folder : Folder) (path name : String) (entries : List Entry) : Option (List UInt8) :=
  ((Recorder.mk (some path) {} folder).run (entries.map .log)).leaves? name

private theorem report_run (recorder : Recorder) (steps : List RecorderStep) :
    (recorder.run steps).report = (steps.filterMap RecorderStep.entry?).foldl log recorder.report := by
  induction steps generalizing recorder with
  | nil => rfl
  | cons step steps ih =>
    cases step with
    | log entry => exact ih (recorder.log entry)
    | save =>
      have saved : (recorder.run (.save :: steps)).report = (recorder.save.2.run steps).report := rfl
      rw [saved, ih, Recorder.report_save]
      rfl

theorem path_run (recorder : Recorder) (steps : List RecorderStep) :
    (recorder.run steps).path = recorder.path := by
  induction steps generalizing recorder with
  | nil => rfl
  | cons step steps ih => exact (ih (recorder.step step)).trans (recorder.path_step step)

private theorem folder_run_log (recorder : Recorder) (entries : List Entry) :
    (recorder.run (entries.map .log)).folder = recorder.folder := by
  induction entries generalizing recorder with
  | nil => rfl
  | cons entry entries ih => exact ih (recorder.log entry)

/-- The last save writes all that was logged, over whatever was in the file. -/
theorem leaves?_run {folder : Folder} {path name : String} {steps : List RecorderStep} {entries : List Entry}
    (logs : steps.filterMap RecorderStep.entry? = entries)
    (keeps : ((Recorder.mk (some path) {} folder).run steps).folder.Keeps path name (logged entries).text) :
    ((Recorder.mk (some path) {} folder).run steps).leaves? name = some (bytes (logged entries).text) := by
  have report : ((Recorder.mk (some path) {} folder).run steps).report = logged entries := by
    rw [report_run, foldl_log, logs]
  rw [← report] at keeps ⊢
  exact Recorder.leaves?_of_keeps (path_run _ steps) keeps

section Entries

variable {folder : Folder} {path name : String} {entries : List Entry}

private theorem filterMap_entry?_map_log (entries : List Entry) :
    (entries.map RecorderStep.log).filterMap RecorderStep.entry? = entries := by
  rw [List.filterMap_map]
  exact List.filterMap_some

private theorem saved?_eq (keeps : folder.Keeps path name (logged entries).text) :
    saved? folder path name entries = some (bytes (logged entries).text) := by
  apply leaves?_run (filterMap_entry?_map_log entries)
  rwa [folder_run_log]

private theorem text_eq_of_saved? {file : OpenFile} {text : String} (opened : folder.opened path = .ok file)
    (named : file.name = some name) (left : saved? folder path name entries = some (bytes text)) :
    text = (logged entries).text := by
  have accepted := Recorder.accepts_of_leaves? (path_run _ _) left
  rw [folder_run_log, report_run, foldl_log, filterMap_entry?_map_log] at accepted
  obtain ⟨file', opened', fits⟩ := accepted
  rw [opened, Except.ok.injEq] at opened'
  subst opened'
  rw [saved?_eq ⟨file, opened, named, fits⟩] at left
  exact (bytes_injective (Option.some.inj left)).symm

end Entries

/-- A saved report is a JSON text for exactly what was logged, in which every row of a grid has the width
that is recorded. The text determines what was logged, and without the texts in it the document depends
on nothing but what was logged without labels and messages. -/
theorem decode_saved {folder : Folder} {path name : String} {entries : List Entry}
    (keeps : folder.Keeps path name (logged entries).text) :
    ∃ text, saved? folder path name entries = some (bytes text) ∧
      Json.decode text = some (document (logged entries)) ∧
      (∀ g ∈ boards (logged entries), ∀ row ∈ g.rows, row.length = (g.rows.headD []).length) ∧
      (∀ others, saved? folder path name others = some (bytes text) → logged others = logged entries) ∧
      ∀ others, others.map Entry.unworded = entries.map Entry.unworded →
        folder.Keeps path name (logged others).text →
        ∃ text', saved? folder path name others = some (bytes text') ∧
          (Json.decode text').map Datum.shape = (Json.decode text).map Datum.shape := by
  refine ⟨(logged entries).text, saved?_eq keeps, decode_text _, ?_, ?_, ?_⟩
  · intro g _ row member
    rw [Grid.length_of_mem_rows member, Grid.length_headD_rows]
  · intro others same
    obtain ⟨file, opened, named, -⟩ := keeps
    have decoded := decode_text (logged others)
    rw [← text_eq_of_saved? opened named same, decode_text] at decoded
    exact document_injective (Option.some.inj decoded.symm)
  · intro others same kept
    have shapes : ∀ entries, (document (logged entries)).shape =
        (document (logged (entries.map Entry.unworded))).shape := fun entries => by
      rw [logged_unworded, shape_document_unworded]
    refine ⟨_, saved?_eq kept, ?_⟩
    rw [decode_text, decode_text]
    exact congrArg some (by rw [shapes others, same, ← shapes entries])

theorem decode_saved_quoted_label :
    let folder : Folder := { system := .tree [["tmp"], ["work"]] ["work"] }
    let entries : List Entry := [.grid "\"t0\"\n" (.ofFn 2 1 (by decide) (by decide) fun _ col =>
      if col = 0 then .alive else .dead), .verdict false [(0, 1)]]
    folder.Keeps "/tmp/report.json" "/tmp/report.json" (logged entries).text ∧
      ∃ text, saved? folder "/tmp/report.json" "/tmp/report.json" entries = some (bytes text) ∧
        Json.decode text = some (.object [
          ("error", .null),
          ("grids", .array [.object [
            ("cells", .array [.array [.number 1, .number 0]]),
            ("height", .number 1),
            ("label", .string "\"t0\"\n"),
            ("population", .number 1),
            ("width", .number 2)]]),
          ("is_next_state", .bool false),
          ("mismatches", .array [.array [.number 0, .number 1]]),
          ("successor", .null)]) := by
  intro folder entries
  have opened : folder.opened "/tmp/report.json" = .ok ⟨some "/tmp/report.json", none⟩ := by decide
  have keeps : folder.Keeps "/tmp/report.json" "/tmp/report.json" (logged entries).text :=
    ⟨_, opened, rfl, OpenFile.fits_of_limit_eq_none rfl⟩
  obtain ⟨text, kept, decoded, -⟩ := decode_saved keeps
  exact ⟨keeps, text, kept, decoded⟩

end Saving

end Report

end GameOfLife

import GameOfLife.Proofs.Saving
import GameOfLife.Proofs.Session.Output

/-!
A run as a function of the results of its two reads. They alone decide what is recorded and whether the
run fails, and with the options they decide what is written, line by line.
-/

set_option autoImplicit false
set_option relaxedAutoImplicit false

namespace GameOfLife

open Text

def Reader.Reads (reader : Reader) (layout : Layout) (first second : Except ReadError Grid) : Prop :=
  ∃ after, readAll [layout, layout] reader = ([first, second], after)

section Lines

def Style.rowText (style : Style) (row : List Cell) : String :=
  String.join (row.flatMap style.cell)

def Grid.labeledLines (style : Style) (label : String) (g : Grid) : List String :=
  (label ++ ":") :: g.rows.map style.rowText

def Options.questions (options : Options) (state : Role) : List String :=
  if options.quiet then [] else ["Enter the " ++ state.description ++ ":", options.layout.instructions]

def Options.askedLines (options : Options) : Except ReadError Grid → List String
  | .error _ => options.questions .current
  | .ok _ => options.questions .current ++ options.questions .target

def listingLines : List (Nat × Nat) → List String
  | [] => []
  | places => ["differs at " ++ ", ".intercalate (places.map placeText)]

def verdictLine (isNext : Bool) : String :=
  if isNext then "t1 is the next state of t0." else "t1 is not the next state of t0."

def successorLines (style : Style) (current target : Grid) : List String :=
  current.next.labeledLines style "next(t0)" ++ listingLines (check current target).mismatches

def answerLines (options : Options) (style : Style) (current target : Grid) : List String :=
  (if options.showSuccessor = true ∧ (check current target).isNext = false then
    successorLines style current target else []) ++ [verdictLine (check current target).isNext]

def shownLines (options : Options) (style : Style) :
    Except ReadError Grid → Except ReadError Grid → List String
  | .ok current, .ok target =>
    current.labeledLines style "t0" ++ (target.labeledLines style "t1" ++
      answerLines options style current target)
  | _, _ => []

/-- All that a run writes, given the results of its reads. -/
def told (options : Options) (style : Style) (first second : Except ReadError Grid) : String :=
  unlines (options.askedLines first ++ shownLines options style first second)

private theorem Style.join_row (style : Style) (row : List Cell) :
    String.join (style.row row) = style.rowText row ++ "\n" := by
  rw [Style.row, rowText, String.join_append]
  rfl

theorem Grid.join_draw_eq_unlines (g : Grid) (style : Style) :
    String.join (g.draw style) = unlines (g.rows.map style.rowText) := by
  unfold draw
  induction g.rows with
  | nil => rfl
  | cons row rest ih =>
    rw [List.flatMap_cons, String.join_append, style.join_row, ih, List.map_cons, unlines_cons]

private theorem Grid.join_drawLabeled_eq_unlines (g : Grid) (style : Style) (label : String) :
    String.join (g.drawLabeled style label) = unlines (g.labeledLines style label) := by
  rw [labeledLines, unlines_cons, ← join_draw_eq_unlines, ← String.toList_inj]
  simp [drawLabeled]

private theorem promptBlock_eq (layout : Layout) (state : Role) :
    promptBlock layout state =
      "Enter the " ++ state.description ++ ":" ++ "\n" ++ layout.instructions ++ "\n" := by
  cases state with
  | current =>
    have wording : "Enter the current state (t0):\n" =
        "Enter the " ++ Role.current.description ++ ":" ++ "\n" := by decide
    exact congrArg (· ++ layout.instructions ++ "\n") wording
  | target =>
    have wording : "Enter the target state (t1):\n" =
        "Enter the " ++ Role.target.description ++ ":" ++ "\n" := by decide
    exact congrArg (· ++ layout.instructions ++ "\n") wording

theorem Options.prompt_eq_unlines (options : Options) (state : Role) :
    options.prompt state = unlines (options.questions state) := by
  rw [prompt_eq, questions, promptBlock_eq]
  split
  · rfl
  · simp only [unlines, List.map_cons, List.map_nil, String.join_cons, String.join_nil,
      String.append_empty, String.append_assoc]

private theorem differencesLine_eq_unlines (places : List (Nat × Nat)) :
    differencesLine places = unlines (listingLines places) := by
  cases places with
  | nil => rfl
  | cons place places =>
    rw [differencesLine_of_ne_nil (List.cons_ne_nil place places)]
    simp [listingLines, unlines]

private theorem Verdict.line_eq (verdict : Verdict) : verdict.line = verdictLine verdict.isNext ++ "\n" := by
  unfold line verdictLine
  split <;> rfl

theorem Verdict.text_check (options : Options) (style : Style) (current target : Grid) :
    (check current target).text options style =
      unlines (answerLines options style current target) := by
  have answer : unlines [verdictLine (check current target).isNext] = (check current target).line := by
    simp [unlines, line_eq]
  unfold text answerLines
  split
  · rw [unlines_append, successorLines, unlines_append, ← Grid.join_drawLabeled_eq_unlines,
      ← differencesLine_eq_unlines, answer]
    rfl
  · rw [List.nil_append, answer]

end Lines

section Reads

variable {reader : Reader} {layout : Layout} {first second : Except ReadError Grid}

theorem Reader.exists_reads (reader : Reader) (layout : Layout) :
    ∃ first second, reader.Reads layout first second :=
  ⟨_, _, _, rfl⟩

theorem Reader.Reads.unique {first' second' : Except ReadError Grid}
    (h : reader.Reads layout first second) (h' : reader.Reads layout first' second') :
    first = first' ∧ second = second' := by
  obtain ⟨after, results⟩ := h
  obtain ⟨after', results'⟩ := h'
  rw [results] at results'
  simpa using congrArg Prod.fst results'

def readFailure : Except ReadError Grid → Except ReadError Grid → Option Failure
  | .error e, _ => some (.reading .current e)
  | .ok _, .error e => some (.reading .target e)
  | .ok _, .ok _ => none

def answer? : Except ReadError Grid → Except ReadError Grid → Option Bool
  | .ok current, .ok target => some (check current target).isNext
  | _, _ => none

def recorded : Except ReadError Grid → Except ReadError Grid → List Entry
  | .error e, _ => [.error (Failure.reading .current e).summary]
  | .ok current, .error e => [.grid "t0" current, .error (Failure.reading .target e).summary]
  | .ok current, .ok target => [.grid "t0" current, .grid "t1" target, .successor current.next,
      .verdict (check current target).isNext (check current target).mismatches]

/-- The report of a run, given the results of its reads. -/
def runReport (first second : Except ReadError Grid) : Report :=
  (recorded first second).foldl Report.log {}

private theorem Transcript.run_eq {options : Options} (terminal : Bool)
    (reads : reader.Reads options.layout first second) :
    run options terminal reader =
      { output := told options (options.style.forOutput terminal) first second
        report := runReport first second
        failure := readFailure first second } := by
  obtain ⟨after, results⟩ := reads
  obtain ⟨result, between, firstRead⟩ : ∃ result between, reader.read options.layout =
      (result, between) := ⟨_, _, rfl⟩
  obtain ⟨result', last, secondRead⟩ : ∃ result last, between.read options.layout =
      (result, last) := ⟨_, _, rfl⟩
  rw [Reader.readAll_cons, Reader.readAll_cons, firstRead, secondRead, Prod.mk.injEq] at results
  obtain ⟨rfl, rfl⟩ : result = first ∧ result' = second := by
    simpa [Reader.readAll] using results.1
  -- The second read happens only after a successful first one, and the verdict only after both.
  cases result with
  | error e =>
    simp only [run, firstRead, failed, runReport, recorded, readFailure, told, shownLines, List.append_nil,
      Options.askedLines, Options.prompt_eq_unlines, List.foldl_cons, List.foldl_nil]
  | ok current =>
    cases result' with
    | error e =>
      simp only [run, firstRead, secondRead, failed, runReport, recorded, readFailure, told, shownLines,
        List.append_nil, Options.askedLines, Options.prompt_eq_unlines, unlines_append,
        List.foldl_cons, List.foldl_nil, Role.label]
    | ok target =>
      simp only [run, firstRead, secondRead, completed, runReport, recorded, readFailure, told, shownLines,
        Options.askedLines, Options.prompt_eq_unlines, unlines_append,
        Grid.join_drawLabeled_eq_unlines, Verdict.text_check, String.append_assoc, Role.label]
      rfl

end Reads

private theorem Request.ofArguments_of_accepted {arguments : List String} {options : Options}
    (accepted : Options.ofArguments arguments = .ok options) (noHelp : options.help = false) :
    ofArguments arguments = .run options := by
  simp [ofArguments, accepted, noHelp]

/-- What a run leaves behind, told from the results of its reads. -/
theorem Outcome.ofCommand_eq {arguments : List String} {options : Options}
    (accepted : Options.ofArguments arguments = .ok options) (noHelp : options.help = false)
    {input : Reader} {first second : Except ReadError Grid}
    (reads : input.Reads options.layout first second) (terminal : Bool) (folder : Folder) :
    let saved := (runReport first second).saveIn folder options.report
    ofCommand arguments terminal input folder =
      { output := told options (options.style.forOutput terminal) first second
        folder := saved.2
        failure := firstFailure (readFailure first second) saved.1 } := by
  intro saved
  simp only [ofCommand, Request.ofArguments_of_accepted accepted noHelp, Transcript.run_eq terminal reads]
  rfl

theorem Outcome.output_ofCommand_of_reads {arguments : List String} {options : Options}
    (accepted : Options.ofArguments arguments = .ok options) (noHelp : options.help = false)
    {input : Reader} {first second : Except ReadError Grid}
    (reads : input.Reads options.layout first second) (terminal : Bool) (folder : Folder) :
    (ofCommand arguments terminal input folder).output =
      told options (options.style.forOutput terminal) first second := by
  rw [ofCommand_eq accepted noHelp reads]

theorem Outcome.output_ofCommand_plain {arguments : List String} {options : Options}
    (accepted : Options.ofArguments arguments = .ok options) (noHelp : options.help = false)
    {input : Reader} {first second : Except ReadError Grid}
    (reads : input.Reads options.layout first second) (folder : Folder) :
    (ofCommand arguments false input folder).output = told options .plain first second :=
  output_ofCommand_of_reads accepted noHelp reads false folder

/-- Whether the report of a run can be saved, if one is wanted. -/
def Options.Savable (options : Options) (input : Reader) (folder : Folder) : Prop :=
  ∀ path, options.report = some path → ∃ first second, input.Reads options.layout first second ∧
    folder.Accepts path (runReport first second).text

section Saving

variable {options : Options} {input : Reader} {first second : Except ReadError Grid} {folder : Folder}

private theorem Options.savable_of_none (unasked : options.report = none) : options.Savable input folder := by
  intro path wanted
  rw [unasked] at wanted
  exact nomatch wanted

theorem Options.savable_of_accepts {path : String} (wanted : options.report = some path)
    (reads : input.Reads options.layout first second)
    (accepts : folder.Accepts path (runReport first second).text) : options.Savable input folder := by
  intro other same
  rw [wanted, Option.some.injEq] at same
  exact ⟨first, second, reads, same ▸ accepts⟩

theorem Options.savable_or_refused (options : Options) (reads : input.Reads options.layout first second)
    (folder : Folder) : options.Savable input folder ∨
      ∃ path cause, options.report = some path ∧
        folder.Refuses path (runReport first second).text cause := by
  cases wanted : options.report with
  | none => exact .inl (savable_of_none wanted)
  | some path =>
    rcases folder.accepts_or_refuses path (runReport first second).text with accepts | ⟨cause, refuses⟩
    · exact .inl (savable_of_accepts wanted reads accepts)
    · exact .inr ⟨path, cause, rfl, refuses⟩

theorem Options.Savable.saved (savable : options.Savable input folder)
    (reads : input.Reads options.layout first second) :
    ((runReport first second).saveIn folder options.report).1 = .ok () := by
  cases wanted : options.report with
  | none => rfl
  | some path =>
    obtain ⟨first', second', reads', accepts⟩ := savable path wanted
    obtain ⟨rfl, rfl⟩ := reads.unique reads'
    exact Report.fst_saveIn_of_accepts accepts

end Saving

end GameOfLife

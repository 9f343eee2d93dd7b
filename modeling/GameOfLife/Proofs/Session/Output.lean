import GameOfLife.Proofs.Input.Pieces
import GameOfLife.Proofs.Verdict
import GameOfLife.Session

/-!
All that a run writes, for every input. The prompts come first; after them nothing is written unless
both states were read, and then both states and an answer, which is positive exactly if the second
state is what the plane makes of the first.
-/

set_option autoImplicit false
set_option relaxedAutoImplicit false

namespace GameOfLife

def promptBlock (layout : Layout) : Role → String
  | .current => "Enter the current state (t0):\n" ++ layout.instructions ++ "\n"
  | .target => "Enter the target state (t1):\n" ++ layout.instructions ++ "\n"

def Options.asked (options : Options) : Except ReadError Grid → String
  | .error _ => if options.quiet then "" else promptBlock options.layout .current
  | .ok _ =>
    if options.quiet then ""
    else promptBlock options.layout .current ++ promptBlock options.layout .target

def placeText (place : Nat × Nat) : String :=
  "(" ++ place.1.repr ++ ", " ++ place.2.repr ++ ")"

/-- The answer to two states. Only a negative one can come with the successor, and only for states of
one size with the places, in the order of reading, at which the target differs from it. -/
inductive Answer (showSuccessor : Bool) (current target : Grid) : String → Prop
  | positive : target.Follows current →
      Answer showSuccessor current target "t1 is the next state of t0.\n"
  | negative : ¬ target.Follows current → showSuccessor = false →
      Answer showSuccessor current target "t1 is not the next state of t0.\n"
  | otherSize : ¬ target.SameSize current → showSuccessor = true →
      Answer showSuccessor current target
        ("next(t0):\n" ++ current.next.display ++ "t1 is not the next state of t0.\n")
  | otherCells (places : List (Nat × Nat)) : target.SameSize current →
      ¬ target.Follows current → showSuccessor = true → places.Pairwise ReadBefore →
      (∀ row col, (row, col) ∈ places ↔ (row < current.height ∧ col < current.width) ∧
        target.get? row col ≠ current.next.get? row col) →
      Answer showSuccessor current target
        ("next(t0):\n" ++ current.next.display ++
          ("differs at " ++ ", ".intercalate (places.map placeText) ++ "\n") ++
          "t1 is not the next state of t0.\n")

/-- What a run shows after its prompts, given the results of its two reads. -/
inductive Shown (showSuccessor : Bool) :
    Except ReadError Grid → Except ReadError Grid → String → Prop
  | firstFailed (e : ReadError) (second : Except ReadError Grid) :
      Shown showSuccessor (.error e) second ""
  | secondFailed (current : Grid) (e : ReadError) : Shown showSuccessor (.ok current) (.error e) ""
  | answered {current target : Grid} {answer : String} :
      Answer showSuccessor current target answer →
      Shown showSuccessor (.ok current) (.ok target)
        ("t0:\n" ++ current.display ++ ("t1:\n" ++ target.display) ++ answer)

theorem Options.prompt_eq (options : Options) (state : Role) :
    options.prompt state = if options.quiet then "" else promptBlock options.layout state := by
  unfold prompt
  split
  · rfl
  · cases state <;> rfl

private theorem Grid.join_drawLabeled (g : Grid) (label : String) :
    String.join (g.drawLabeled .plain label) = label ++ ":\n" ++ g.display := by
  rw [← String.toList_inj]
  simp [drawLabeled, display, String.toList_join]

theorem differencesLine_of_ne_nil {places : List (Nat × Nat)} (h : places ≠ []) :
    differencesLine places =
      "differs at " ++ ", ".intercalate (places.map placeText) ++ "\n" := by
  cases places with
  | nil => exact absurd rfl h
  | cons place places => rfl

section Text

variable {options : Options} {verdict : Verdict}

private theorem Verdict.text_of_positive (positive : verdict.isNext = true) :
    verdict.text options .plain = "t1 is the next state of t0.\n" := by
  simp [text, line, positive]

theorem Verdict.text_of_negative (negative : verdict.isNext = false)
    (hidden : options.showSuccessor = false) :
    verdict.text options .plain = "t1 is not the next state of t0.\n" := by
  simp [text, line, negative, hidden]

theorem Verdict.text_of_negative_shown (negative : verdict.isNext = false)
    (shown : options.showSuccessor = true) :
    verdict.text options .plain = "next(t0):\n" ++ verdict.successor.display ++
      differencesLine verdict.mismatches ++ "t1 is not the next state of t0.\n" := by
  have label : successorLabel ++ ":\n" = "next(t0):\n" := by decide
  simp [text, line, negative, shown, Grid.join_drawLabeled, label]

end Text

private theorem answer_text_check (options : Options) (current target : Grid) :
    Answer options.showSuccessor current target ((check current target).text options .plain) := by
  by_cases follows : target.Follows current
  · rw [Verdict.text_of_positive (isNext_check_iff_follows.2 follows)]
    exact .positive follows
  · have negative : (check current target).isNext = false := by
      rw [← Bool.not_eq_true, isNext_check_iff_follows]
      exact follows
    have successor : (check current target).successor = current.next := rfl
    cases shown : options.showSuccessor with
    | false =>
      rw [Verdict.text_of_negative negative shown]
      exact .negative follows rfl
    | true =>
      rw [Verdict.text_of_negative_shown negative shown, successor]
      by_cases size : target.SameSize current
      · -- A negative verdict between grids of one size has a place to list.
        have different : current.next ≠ target := fun same =>
          follows (Grid.follows_iff.2 same.symm)
        have comparable : current.next.SameSize target := size.symm
        rw [mismatches_check follows size,
          differencesLine_of_ne_nil (Grid.differences_ne_nil comparable different)]
        refine .otherCells _ size follows rfl (Grid.pairwise_differences _ _) ?_
        intro row col
        rw [Grid.mem_differences, Grid.height_next, Grid.width_next, ne_comm]
      · rw [mismatches_check_of_not_sameSize size]
        simpa [differencesLine] using .otherSize size rfl

private theorem Transcript.shown_run (options : Options) (reader : Reader) :
    ∃ first second after shown,
      Reader.readAll [options.layout, options.layout] reader = ([first, second], after) ∧
      Shown options.showSuccessor first second shown ∧
      (Transcript.run options false reader).output = options.asked first ++ shown := by
  obtain ⟨first, between, firstRead⟩ : ∃ first between, reader.read options.layout =
      (first, between) := ⟨_, _, rfl⟩
  obtain ⟨second, after, secondRead⟩ : ∃ second after, between.read options.layout =
      (second, after) := ⟨_, _, rfl⟩
  have results : Reader.readAll [options.layout, options.layout] reader =
      ([first, second], after) := by
    rw [Reader.readAll_cons, Reader.readAll_cons, firstRead, secondRead]
    rfl
  refine ⟨first, second, after, ?_⟩
  -- The second read happens only after a successful first one, and the verdict only after both.
  cases first with
  | error e =>
    refine ⟨"", results, .firstFailed e second, ?_⟩
    simp only [run, firstRead, failed, Options.prompt_eq, Options.asked, String.append_empty]
  | ok current =>
    have asked : options.prompt .current ++ options.prompt .target = options.asked (.ok current) := by
      rw [Options.prompt_eq, Options.prompt_eq, Options.asked]
      split <;> rfl
    cases second with
    | error e =>
      refine ⟨"", results, .secondFailed current e, ?_⟩
      simp only [run, firstRead, secondRead, failed, asked, String.append_empty]
    | ok target =>
      have plain : options.style.forOutput false = .plain := rfl
      refine ⟨_, results, .answered (answer_text_check options current target), ?_⟩
      simp only [run, firstRead, secondRead, completed, asked, plain, Grid.join_drawLabeled,
        Role.label, String.append_assoc]
      rfl

/-- Whatever the arguments that are accepted and whatever the bytes on the input, a run writes its
prompts and what it shows of its two reads, and nothing else. -/
theorem output_ofCommand {arguments : List String} {options : Options}
    (accepted : Options.ofArguments arguments = .ok options) (noHelp : options.help = false)
    (input : List UInt8) (folder : Folder) :
    ∃ first second after shown,
      Reader.readAll [options.layout, options.layout] (Reader.ofBytes input) =
        ([first, second], after) ∧
      Shown options.showSuccessor first second shown ∧
      (Outcome.ofCommand arguments false (Reader.ofBytes input) folder).output =
        options.asked first ++ shown := by
  have request : Request.ofArguments arguments = .run options := by
    simp [Request.ofArguments, accepted, noHelp]
  simp only [Outcome.ofCommand, request]
  exact Transcript.shown_run options (Reader.ofBytes input)

theorem output_ofCommand_showSuccessor :
    let input := Reader.ofBytes (Text.bytes "0 1\n\n0 1\n\n")
    let state := Grid.ofFn 2 1 (by decide) (by decide) fun _ col => if col = 0 then .dead else .alive
    let shown := "t0:\n0 1 \nt1:\n0 1 \nnext(t0):\n0 0 \ndiffers at (0, 1)\nt1 is not the next state of t0.\n"
    Options.ofArguments ["--show-successor"] = .ok { showSuccessor := true } ∧
      (Reader.readAll [.plain, .plain] input).1 = [.ok state, .ok state] ∧
      Shown true (.ok state) (.ok state) shown ∧
      (Outcome.ofCommand ["--show-successor"] false input {}).output =
        promptBlock .plain .current ++ promptBlock .plain .target ++ shown := by
  intro input state shown
  have accepted : Options.ofArguments ["--show-successor"] = .ok { showSuccessor := true } := by decide
  have read : (Reader.readAll [.plain, .plain] input).1 = [.ok state, .ok state] := by decide
  have output : (Outcome.ofCommand ["--show-successor"] false input {}).output =
      promptBlock .plain .current ++ promptBlock .plain .target ++ shown := by decide +kernel
  obtain ⟨first, second, after, shown', results, told, told'⟩ :=
    output_ofCommand accepted rfl (Text.bytes "0 1\n\n0 1\n\n") {}
  obtain ⟨rfl, rfl⟩ : first = .ok state ∧ second = .ok state := by
    simpa [input, results] using read
  have same : shown' = shown := by
    rw [told'] at output
    exact (String.append_right_inj _).1 output
  exact ⟨accepted, read, same ▸ told, output⟩

end GameOfLife

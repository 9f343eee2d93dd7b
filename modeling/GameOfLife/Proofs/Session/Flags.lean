import GameOfLife.Proofs.Options.Groups
import GameOfLife.Proofs.Session.Ending
import GameOfLife.Proofs.Session.Screen

/-!
What one more option changes in a run whose output is no terminal. A colour changes nothing, silence leaves
out the questions, the successor is inserted before a negative verdict only, and a report adds its file. So
neither the verdict nor the exit code depends on anything but the layout, the input and whether the report
can be saved.
-/

set_option autoImplicit false
set_option relaxedAutoImplicit false

namespace GameOfLife

open Text

/-- What one more group of arguments changes in a run, given the results of its reads: the options, the folder and
the outcome without the group, and the outcome with it. -/
structure Separate (options : Options) (first second : Except ReadError Grid) (folder : Folder)
    (without : Outcome) (outcome : Group → Outcome) : Prop where
  color : ∀ spelling known, outcome (.flag spelling .color known) = without
  quiet : ∀ spelling known, ∃ shown, without.output = options.asked first ++ shown ∧
    outcome (.flag spelling .quiet known) = { without with output := shown }
  unneeded : ∀ spelling known,
    (options.showSuccessor = true ∨ ∀ current target, first = .ok current → second = .ok target →
      target.Follows current) →
    outcome (.flag spelling .showSuccessor known) = without
  successor : ∀ spelling known current target, options.showSuccessor = false → first = .ok current →
    second = .ok target → ¬ target.Follows current →
    ∃ front, without.output = front ++ "t1 is not the next state of t0.\n" ∧
      outcome (.flag spelling .showSuccessor known) = { without with
        output := front ++ ("next(t0):\n" ++ current.next.display ++
          differencesLine (check current target).mismatches) ++ "t1 is not the next state of t0.\n" }
  report : ∀ path file, options.report = none → folder.opened path = .ok file →
    file.Fits (bytes (runReport first second).text) →
    (outcome (.report path)).code = without.code ∧
      (outcome (.report path)).output = without.output ∧
      (outcome (.report path)).errorOutput = without.errorOutput ∧
      (∀ name, file.name = some name →
        (outcome (.report path)).folder.get? name = some (bytes (runReport first second).text)) ∧
      ∀ other, file.name ≠ some other →
        (outcome (.report path)).folder.get? other = without.folder.get? other

private theorem Options.asked_eq_unlines (options : Options) (first : Except ReadError Grid) :
    options.asked first = unlines (options.askedLines first) := by
  cases first with
  | error e => rw [askedLines, ← prompt_eq_unlines, prompt_eq, asked]
  | ok current =>
    rw [askedLines, unlines_append, ← prompt_eq_unlines, ← prompt_eq_unlines, prompt_eq, prompt_eq,
      asked]
    split <;> rfl

section Told

variable (options : Options) (first second : Except ReadError Grid)

private theorem told_color : told (options.set .color) .plain first second =
    told options .plain first second := by
  cases first <;> cases second <;> rfl

private theorem told_quiet : told (options.set .quiet) .plain first second =
    unlines (shownLines options .plain first second) := by
  cases first <;> cases second <;> rfl

private theorem told_report (path : Option String) : told { options with report := path } .plain first second =
    told options .plain first second := by
  cases first <;> cases second <;> rfl

private theorem shownLines_showSuccessor
    (unneeded : options.showSuccessor = true ∨
      ∀ current target, first = .ok current → second = .ok target → target.Follows current) :
    shownLines (options.set .showSuccessor) .plain first second =
      shownLines options .plain first second := by
  match first, second with
  | .error _, _ | .ok _, .error _ => rfl
  | .ok current, .ok target =>
    have same : answerLines (options.set .showSuccessor) .plain current target =
        answerLines options .plain current target := by
      rcases unneeded with already | follows
      · simp [answerLines, Options.set, already]
      · have positive := isNext_check_iff_follows.2 (follows current target rfl rfl)
        simp [answerLines, positive]
    rw [shownLines, shownLines, same]

private theorem told_showSuccessor
    (unneeded : options.showSuccessor = true ∨
      ∀ current target, first = .ok current → second = .ok target → target.Follows current) :
    told (options.set .showSuccessor) .plain first second = told options .plain first second := by
  rw [told, shownLines_showSuccessor options first second unneeded]
  cases first <;> rfl

end Told

section Negative

variable (options : Options) {current target : Grid}

def beforeAnswer (options : Options) (current target : Grid) : String :=
  unlines (options.askedLines (.ok current) ++
    (current.labeledLines .plain "t0" ++ target.labeledLines .plain "t1"))

private theorem told_eq_beforeAnswer : told options .plain (.ok current) (.ok target) =
    beforeAnswer options current target ++ (check current target).text options .plain := by
  rw [told, shownLines, ← List.append_assoc, ← List.append_assoc, unlines_append,
    ← Verdict.text_check, beforeAnswer, List.append_assoc]

private theorem told_of_hidden (negative : ¬ target.Follows current) (hidden : options.showSuccessor = false) :
    told options .plain (.ok current) (.ok target) =
      beforeAnswer options current target ++ "t1 is not the next state of t0.\n" := by
  rw [told_eq_beforeAnswer,
    Verdict.text_of_negative (isNext_check_of_not_follows negative) hidden]

private theorem told_of_shown (negative : ¬ target.Follows current) :
    told (options.set .showSuccessor) .plain (.ok current) (.ok target) =
      beforeAnswer options current target ++ ("next(t0):\n" ++ current.next.display ++
        differencesLine (check current target).mismatches) ++ "t1 is not the next state of t0.\n" := by
  have shown : (options.set .showSuccessor).showSuccessor = true := rfl
  have same : beforeAnswer (options.set .showSuccessor) current target =
      beforeAnswer options current target := rfl
  have successor : (check current target).successor = current.next := rfl
  rw [told_eq_beforeAnswer, same,
    Verdict.text_of_negative_shown (isNext_check_of_not_follows negative) shown, successor]
  simp only [String.append_assoc]

end Negative

section Insertion

variable {before after : List Group} {options : Options} {input : Reader}
  {first second : Except ReadError Grid}
  (accepted : Options.ofArguments (spelled (before ++ after)) = .ok options)
  (noHelp : options.help = false) (reads : input.Reads options.layout first second) (folder : Folder)

include accepted noHelp reads

private theorem ofCommand_insert_flag {spelling : String} {flag : Flag}
    (known : (spelling, flag) ∈ Flag.spellings) (noHelp' : (options.set flag).help = false)
    (layout : (options.set flag).layout = options.layout)
    (report : (options.set flag).report = options.report) :
    Outcome.ofCommand (spelled (before ++ .flag spelling flag known :: after)) false input folder =
      { Outcome.ofCommand (spelled (before ++ after)) false input folder with
        output := told (options.set flag) .plain first second } := by
  have accepted' := Options.ofArguments_insert_flag accepted known
  rw [Outcome.ofCommand_eq accepted' noHelp' (layout ▸ reads), Outcome.ofCommand_eq accepted noHelp reads,
    report]
  rfl

private theorem ofCommand_insert_report {path : String} {file : OpenFile} (unasked : options.report = none)
    (opened : folder.opened path = .ok file) (fits : file.Fits (bytes (runReport first second).text)) :
    Outcome.ofCommand (spelled (before ++ .report path :: after)) false input folder =
      { Outcome.ofCommand (spelled (before ++ after)) false input folder with
        folder := folder.holding file (bytes (runReport first second).text) } := by
  let asking : Options := { options with report := some path }
  have accepted' : Options.ofArguments (spelled (before ++ .report path :: after)) = .ok asking :=
    Options.ofArguments_insert_report accepted unasked path
  have saved : (runReport first second).saveIn folder asking.report = _ :=
    Report.saveIn_of_fits opened fits
  have output : told asking .plain first second = told options .plain first second :=
    told_report options first second (some path)
  have noHelp' : asking.help = false := noHelp
  have reads' : input.Reads asking.layout first second := reads
  rw [Outcome.ofCommand_eq accepted' noHelp' reads', Outcome.ofCommand_eq accepted noHelp reads,
    unasked, Report.saveIn_none, saved]
  exact congrArg (fun output => Outcome.mk output _ _) output

private theorem separate_insert : Separate options first second folder
    (Outcome.ofCommand (spelled (before ++ after)) false input folder)
    fun group => Outcome.ofCommand (spelled (before ++ group :: after)) false input folder := by
  have output := Outcome.output_ofCommand_plain accepted noHelp reads folder
  constructor
  case color =>
    intro spelling known
    rw [ofCommand_insert_flag accepted noHelp reads folder known noHelp rfl rfl, told_color, ← output]
  case quiet =>
    intro spelling known
    refine ⟨unlines (shownLines options .plain first second), ?_, ?_⟩
    · rw [output, told, unlines_append, Options.asked_eq_unlines]
    · rw [ofCommand_insert_flag accepted noHelp reads folder known noHelp rfl rfl, told_quiet]
  case unneeded =>
    intro spelling known unneeded
    rw [ofCommand_insert_flag accepted noHelp reads folder known noHelp rfl rfl,
      told_showSuccessor options first second unneeded, ← output]
  case successor =>
    rintro spelling known current target hidden rfl rfl negative
    refine ⟨beforeAnswer options current target, ?_, ?_⟩
    · rw [output, told_of_hidden options negative hidden]
    · rw [ofCommand_insert_flag accepted noHelp reads folder known noHelp rfl rfl,
        told_of_shown options negative]
  case report =>
    intro path file unasked opened fits
    have untouched : (Outcome.ofCommand (spelled (before ++ after)) false input folder).folder =
        folder := by
      rw [Outcome.folder_of_reads accepted noHelp reads, unasked, Report.saveIn_none]
    rw [ofCommand_insert_report accepted noHelp reads folder unasked opened fits]
    refine ⟨rfl, rfl, rfl, fun name named => Folder.get?_holding_self named _, ?_⟩
    intro other different
    rw [untouched]
    exact Folder.get?_holding_of_ne different _

end Insertion

section Dependence

variable {arguments others : List String} {options options' : Options} {input : Reader}
  {first second : Except ReadError Grid}
  (accepted : Options.ofArguments arguments = .ok options) (noHelp : options.help = false)
  (accepted' : Options.ofArguments others = .ok options') (noHelp' : options'.help = false)
  (layout : options'.layout = options.layout) (folder folder' : Folder)

private theorem Outcome.code_eq_of_failure {a b : Outcome} (h : a.failure = none ↔ b.failure = none) :
    a.code = b.code := by
  cases failed : b.failure with
  | none => rw [code_of_none failed, code_of_none (h.2 failed)]
  | some failure =>
    obtain ⟨failure', failed'⟩ := Option.ne_none_iff_exists'.1 fun none => by
      rw [h.1 none] at failed
      exact nomatch failed
    rw [code_of_some failed, code_of_some failed']

include accepted noHelp accepted' noHelp' layout in
private theorem verdicts_and_code_of_layout :
    verdicts (Outcome.ofCommand others false input folder').output =
        verdicts (Outcome.ofCommand arguments false input folder).output ∧
      ((options'.Savable input folder' ↔ options.Savable input folder) →
        (Outcome.ofCommand others false input folder').code =
          (Outcome.ofCommand arguments false input folder).code) := by
  obtain ⟨first, second, reads⟩ := input.exists_reads options.layout
  have reads' : input.Reads options'.layout first second := layout ▸ reads
  constructor
  · rw [Outcome.output_ofCommand_plain accepted noHelp reads, verdicts_told,
      Outcome.output_ofCommand_plain accepted' noHelp' reads', verdicts_told]
  · intro savable
    apply Outcome.code_eq_of_failure
    rw [Outcome.failure_eq_none_iff accepted noHelp reads,
      Outcome.failure_eq_none_iff accepted' noHelp' reads', savable]

end Dependence

/-- Wherever a group of arguments is inserted it changes what it stands for and nothing else, and the
verdict and the exit code do not depend on other options than the layout, except that a report may be one
that cannot be saved. -/
theorem flags_separate {arguments : List String} {options : Options}
    (accepted : Options.ofArguments arguments = .ok options) (noHelp : options.help = false)
    (input : Reader) (folder : Folder) :
    (∃ groups, arguments = spelled groups) ∧
      (∀ before after, arguments = spelled (before ++ after) → ∃ first second,
        input.Reads options.layout first second ∧
          Separate options first second folder (Outcome.ofCommand arguments false input folder)
            fun group => Outcome.ofCommand (spelled (before ++ group :: after)) false input folder) ∧
      ∀ others options', Options.ofArguments others = .ok options' → options'.help = false →
        options'.layout = options.layout → ∀ folder',
          verdicts (Outcome.ofCommand others false input folder').output =
              verdicts (Outcome.ofCommand arguments false input folder).output ∧
            ((options'.Savable input folder' ↔ options.Savable input folder) →
              (Outcome.ofCommand others false input folder').code =
                (Outcome.ofCommand arguments false input folder).code) := by
  refine ⟨Options.exists_groups accepted, ?_, ?_⟩
  · rintro before after rfl
    obtain ⟨first, second, reads⟩ := input.exists_reads options.layout
    exact ⟨first, second, reads, separate_insert accepted noHelp reads folder⟩
  · intro others options' accepted' noHelp' layout folder'
    exact verdicts_and_code_of_layout accepted noHelp accepted' noHelp' layout folder folder'

theorem flags_separate_report_named_quiet :
    Options.ofArguments ["--sized", "--report", "--quiet"] =
        .ok { layout := .sized, report := some "--quiet" } ∧
      Outcome.ofCommand ["--sized", "--color", "--report", "--quiet"] false
          (Reader.ofBytes (bytes "1 2\n0 1\n1 2\n1 1\n")) {} =
        Outcome.ofCommand ["--sized", "--report", "--quiet"] false
          (Reader.ofBytes (bytes "1 2\n0 1\n1 2\n1 1\n")) {} := by
  have accepted : Options.ofArguments ["--sized", "--report", "--quiet"] =
      .ok { layout := .sized, report := some "--quiet" } := by decide
  obtain ⟨-, separate, -⟩ :=
    flags_separate accepted rfl (Reader.ofBytes (bytes "1 2\n0 1\n1 2\n1 1\n")) {}
  obtain ⟨first, second, -, inserted⟩ :=
    separate [.flag "--sized" .sized (by decide)] [.report "--quiet"] rfl
  exact ⟨accepted, inserted.color "--color" (by decide)⟩

end GameOfLife

import GameOfLife.Proofs.Repair
import GameOfLife.Proofs.Session.Ending
import GameOfLife.Proofs.Session.Interchange
import GameOfLife.Proofs.Session.Screen

/-!
Giving the answer of a run back to the program. The successor that is shown before a negative verdict is
read back as the next state, and so is the target once the listed cells of it are flipped.
-/

set_option autoImplicit false
set_option relaxedAutoImplicit false

namespace GameOfLife

open Text

/-- The input of a run on two texts, the first of which an empty line ends. -/
def twoStates (first second : String) : Reader :=
  .ofBytes (bytes (first ++ "\n" ++ second))

/-- Whether the program says of two texts that the second is the next state, whatever its options are
as long as grids have no headers and the report can be saved. -/
def Affirmed (first second : String) : Prop :=
  ∀ arguments options, Options.ofArguments arguments = .ok options → options.help = false →
    options.layout = .plain → ∀ folder, options.Savable (twoStates first second) folder →
      let outcome := Outcome.ofCommand arguments false (twoStates first second) folder
      outcome.code = 0 ∧ verdicts outcome.output = ["t1 is the next state of t0."]

section Reading

variable (current target : Grid)

private theorem lines_twoStates (rest : String) : lines (current.display ++ "\n" ++ rest) =
    (Written.plain current).lines ++ lines rest := by
  have first : current.display ++ "\n" = unlines (Written.plain current).lines :=
    (Written.plain current).text_eq_unlines
  rw [first, lines_unlines_append Written.unbroken_of_mem_lines]

private theorem reads_displays : (twoStates current.display target.display).Reads .plain
    (.ok current) (.ok target) := by
  have cut : lines (current.display ++ "\n" ++ target.display) =
      [Written.plain current].flatMap Written.lines ++ target.rows.map rowText := by
    rw [lines_twoStates, target.lines_display, List.flatMap_singleton]
  -- The end of the input ends the second grid.
  obtain ⟨pending, readable, taken⟩ := Reader.readAll_text cut
  have last : Reader.read .plain ⟨pending, _⟩ = _ :=
    Reader.readPlain_of_held_end (Grid.holds_rows readable)
      ([Written.plain current].flatMap Written.lines).length
  have both : [Layout.plain, .plain] = [Written.plain current].map Written.layout ++ [.plain] := rfl
  rw [Reader.Reads, both, twoStates, Reader.readAll_append, taken, Reader.readAll_cons, last]
  exact ⟨_, rfl⟩

private theorem reads_displays_closed : (twoStates current.display (target.display ++ "\n")).Reads .plain
    (.ok current) (.ok target) := by
  have reads := reads_plain current target []
  rw [Reader.ofText, List.append_nil] at reads
  exact reads

end Reading

section Answers

variable {current target : Grid}

private theorem affirmed_of_follows (follows : target.Follows current) :
    Affirmed current.display target.display := by
  intro arguments options accepted noHelp layout folder savable outcome
  have reads : (twoStates current.display target.display).Reads options.layout (.ok current)
      (.ok target) := layout ▸ reads_displays current target
  constructor
  · exact Outcome.code_of_none
      (Outcome.failure_of_finished accepted noHelp reads false folder rfl savable)
  · have positive := isNext_check_iff_follows.2 follows
    have output : outcome.output = told options .plain (.ok current) (.ok target) :=
      Outcome.output_ofCommand_plain accepted noHelp reads folder
    rw [output, verdicts_told, answer?, positive]
    rfl

private theorem listings_of_sameSize {options : Options} (shown : options.showSuccessor = true)
    (negative : ¬ target.Follows current) (size : target.SameSize current) :
    ∃ line, listings (told options .plain (.ok current) (.ok target)) = [line] ∧
      listed? line = some (check current target).mismatches := by
  have nonempty : (check current target).mismatches ≠ [] := by
    intro none
    exact negative (isNext_check_iff_follows.1 (isNext_check_iff_nil.2 ⟨size, none⟩))
  refine ⟨_, ?_, listed?_listing nonempty⟩
  rw [listings_told shown (isNext_check_of_not_follows negative)]
  cases listed : (check current target).mismatches with
  | nil => exact absurd listed nonempty
  | cons place places => rfl

end Answers

/-- For every pair of states with a negative verdict, the successor that a run shows and the target
repaired as it says are both affirmed; the repair is listed exactly if the states have one size. -/
theorem affirmed_answer {arguments : List String} {options : Options}
    (accepted : Options.ofArguments arguments = .ok options) (noHelp : options.help = false)
    (plain : options.layout = .plain) (shown : options.showSuccessor = true) {current target : Grid}
    (negative : ¬ target.Follows current) {closing : String} (closed : closing = "" ∨ closing = "\n")
    (folder : Folder) :
    let output := (Outcome.ofCommand arguments false
      (twoStates current.display (target.display ++ closing)) folder).output
    Affirmed current.display (successorText output) ∧
      (target.SameSize current → ∃ line places, listings output = [line] ∧
        listed? line = some places ∧ places ≠ [] ∧ places.Nodup ∧
        (∀ place ∈ places, place ∈ target.inside) ∧
        Affirmed current.display (target.flip places.toFinset).display) ∧
      (¬ target.SameSize current → listings output = []) := by
  intro output
  have reads : (twoStates current.display (target.display ++ closing)).Reads options.layout
      (.ok current) (.ok target) := by
    rw [plain]
    rcases closed with rfl | rfl
    · rw [String.append_empty]
      exact reads_displays current target
    · exact reads_displays_closed current target
  have written : output = told options .plain (.ok current) (.ok target) :=
    Outcome.output_ofCommand_plain accepted noHelp reads folder
  have answer := isNext_check_of_not_follows negative
  rw [written]
  refine ⟨?_, ?_, ?_⟩
  · rw [successorText_told .plain shown answer]
    exact affirmed_of_follows (Grid.follows_iff.2 rfl)
  · intro size
    have sizeNext : target.SameSize current.next := size
    obtain ⟨line, listing, places⟩ := listings_of_sameSize shown negative size
    have nodup : (check current target).mismatches.Nodup := by
      rw [mismatches_check_of_sameSize sizeNext]
      exact Grid.nodup_differences _ _
    have repaired : target.flip (check current target).mismatches.toFinset = current.next := by
      rw [toFinset_mismatches_check sizeNext, Grid.flip_disagreements sizeNext]
    refine ⟨line, _, listing, places, ?_, nodup, ?_, ?_⟩
    · intro none
      rw [isNext_check_iff_nil.2 ⟨sizeNext, none⟩] at answer
      exact nomatch answer
    · intro place member
      rw [← List.mem_toFinset, toFinset_mismatches_check sizeNext] at member
      exact Grid.mem_inside.2 (Grid.mem_disagreements.1 member).1
    · exact affirmed_of_follows (Grid.follows_iff.2 repaired)
  · intro size
    rw [listings_told shown answer, mismatches_check_of_not_sameSize size]
    rfl

theorem affirmed_answer_row :
    let row := Grid.ofFn 3 1 (by decide) (by decide) fun _ _ => .alive
    ¬ row.Follows row ∧ row.SameSize row ∧
      let output := (Outcome.ofCommand ["-q", "--show-successor"] false
        (twoStates row.display (row.display ++ "\n")) {}).output
      Affirmed row.display (successorText output) ∧
        ∃ line places, listings output = [line] ∧ listed? line = some places ∧ places ≠ [] ∧
          Affirmed row.display (row.flip places.toFinset).display := by
  intro row
  have accepted : Options.ofArguments ["-q", "--show-successor"] =
      .ok { quiet := true, showSuccessor := true } := by decide
  have negative : ¬ row.Follows row := by
    rw [Grid.follows_iff]
    decide
  have size : row.SameSize row := ⟨rfl, rfl⟩
  obtain ⟨affirmed, repair, -⟩ := affirmed_answer accepted rfl rfl rfl negative (.inr rfl) {}
  obtain ⟨line, places, listing, parsed, nonempty, -, -, repaired⟩ := repair size
  exact ⟨negative, size, affirmed, line, places, listing, parsed, nonempty, repaired⟩

end GameOfLife

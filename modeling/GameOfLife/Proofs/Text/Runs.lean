import GameOfLife.Proofs.Text.Spacing

/-!
The words of a text, said of the text alone: they are its maximal runs of characters that are not blank. A
run is maximal if a blank follows it, or nothing, and reading goes on behind it.
-/

set_option autoImplicit false
set_option relaxedAutoImplicit false

namespace GameOfLife.Text

/-- The maximal runs of characters of a text that are not blank, left to right. -/
inductive Runs : List Char → List (List Char) → Prop
  | nil : Runs [] []
  | blank {c : Char} {rest : List Char} {runs : List (List Char)} :
      isBlank c = true → Runs rest runs → Runs (c :: rest) runs
  | run {run rest : List Char} {runs : List (List Char)} :
      run ≠ [] → (∀ c ∈ run, isBlank c = false) → (∀ c, rest.head? = some c → isBlank c = true) →
      Runs rest runs → Runs (run ++ rest) (run :: runs)

private theorem wordLists_run_append {run rest : List Char} (some : run ≠ [])
    (solid : ∀ c ∈ run, isBlank c = false) (ends : ∀ c, rest.head? = Option.some c → isBlank c = true) :
    wordLists (run ++ rest) = run :: wordLists rest := by
  have whole := wordLists_eq_singleton solid some
  cases rest with
  | nil => rw [List.append_nil, whole, wordLists_nil]
  | cons c rest =>
    have blank : isBlank c = true := ends c rfl
    rw [wordLists_append_cons blank, whole, wordLists_cons_blank blank, List.singleton_append]

private theorem Runs.wordLists_eq {text : List Char} {runs : List (List Char)} (h : Runs text runs) :
    wordLists text = runs := by
  induction h with
  | nil => exact wordLists_nil
  | blank first _ ih => rw [wordLists_cons_blank first, ih]
  | run some solid ends _ ih => rw [wordLists_run_append some solid ends, ih]

private theorem exists_runs (text : List Char) : ∃ runs, Runs text runs := by
  induction text with
  | nil => exact ⟨[], .nil⟩
  | cons c rest ih =>
    obtain ⟨runs, behind⟩ := ih
    by_cases blank : isBlank c = true
    · exact ⟨runs, .blank blank behind⟩
    · have visible : isBlank c = false := Bool.eq_false_iff.2 blank
      have alone : ∀ d ∈ [c], isBlank d = false := List.forall_mem_singleton.2 visible
      cases behind with
      | nil => exact ⟨_, .run (List.cons_ne_nil c []) alone (by simp) .nil⟩
      | blank first others =>
        exact ⟨_, .run (List.cons_ne_nil c []) alone (by simpa using first) (.blank first others)⟩
      | @run run rest runs _ solid ends others =>
        exact ⟨(c :: run) :: runs, .run (List.cons_ne_nil c run)
          (List.forall_mem_cons.2 ⟨visible, solid⟩) ends others⟩

/-- Splitting at blanks finds the maximal runs, and there are no others. -/
theorem runs_iff {text : List Char} {runs : List (List Char)} :
    Runs text runs ↔ wordLists text = runs := by
  constructor
  · exact Runs.wordLists_eq
  · rintro rfl
    obtain ⟨runs, h⟩ := exists_runs text
    rwa [h.wordLists_eq]

private theorem Runs.exists_front {text run : List Char} {runs : List (List Char)} (h : Runs text (run :: runs)) :
    run ≠ [] ∧ (∀ c ∈ run, isBlank c = false) ∧
      ∃ before rest, text = before ++ (run ++ rest) ∧ Blanks before ∧
        (∀ c, rest.head? = some c → isBlank c = true) ∧ Runs rest runs := by
  generalize all : run :: runs = found at h
  induction h with
  | nil => exact nomatch all
  | @blank c rest _ first _ ih =>
    obtain ⟨some, solid, before, left, rfl, blank, ends, others⟩ := ih all
    exact ⟨some, solid, c :: before, left, rfl, List.forall_mem_cons.2 ⟨first, blank⟩, ends, others⟩
  | @run _ rest _ some solid ends others _ =>
    obtain ⟨rfl, rfl⟩ := List.cons.inj all
    exact ⟨some, solid, [], rest, rfl, List.forall_mem_nil _, ends, others⟩

private theorem Runs.blanks {text : List Char} (h : Runs text []) : Blanks text := by
  generalize none : ([] : List (List Char)) = found at h
  induction h with
  | nil => exact List.forall_mem_nil _
  | blank first _ ih => exact List.forall_mem_cons.2 ⟨first, ih none⟩
  | run => exact nomatch none

theorem wordLists_eq_pair_iff {text first second : List Char} :
    wordLists text = [first, second] ↔
      (first ≠ [] ∧ ∀ c ∈ first, isBlank c = false) ∧ (second ≠ [] ∧ ∀ c ∈ second, isBlank c = false) ∧
        ∃ before between after, text = before ++ (first ++ (between ++ (second ++ after))) ∧
          Blanks before ∧ (between ≠ [] ∧ Blanks between) ∧ Blanks after := by
  constructor
  · intro pair
    obtain ⟨some, solid, before, rest, rfl, blank, ends, others⟩ := (runs_iff.2 pair).exists_front
    obtain ⟨some', solid', between, after, rfl, blank', -, none⟩ := others.exists_front
    refine ⟨⟨some, solid⟩, ⟨some', solid'⟩, before, between, after, rfl, blank, ⟨?_, blank'⟩, none.blanks⟩
    -- Without a blank between them the first run would go on with the second one.
    rintro rfl
    obtain ⟨c, others, rfl⟩ := List.exists_cons_of_ne_nil some'
    have visible : isBlank c = false := solid' c List.mem_cons_self
    rw [ends c rfl] at visible
    exact nomatch visible
  · rintro ⟨⟨some, solid⟩, ⟨some', solid'⟩, before, between, after, rfl, blank, ⟨gap, blank'⟩, blank''⟩
    rw [wordLists_blanks_append blank, ← List.append_assoc,
      wordLists_append_blanks_append blank' gap, wordLists_append_blanks blank'',
      wordLists_eq_singleton solid some, wordLists_eq_singleton solid' some', List.singleton_append]

end GameOfLife.Text

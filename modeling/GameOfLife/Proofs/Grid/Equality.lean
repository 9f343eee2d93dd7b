import GameOfLife.Proofs.Display
import GameOfLife.Proofs.Grid.Representation
import GameOfLife.Proofs.Text.Printed
import Mathlib.Data.List.TFAE

/-!
When two grids are the same. Comparing them row by row, field by field, cell by cell or by what is shown of
them comes to the same thing. The rows alone would not do, because comparing them ends with the shorter list;
nor would the cells in their order, because they can be laid out in several ways.
-/

set_option autoImplicit false
set_option relaxedAutoImplicit false

namespace GameOfLife

open Text

private theorem forall_mem_zip_iff {α : Type} {a b : List α} :
    (∀ pair ∈ a.zip b, pair.1 = pair.2) ↔ a <+: b ∨ b <+: a := by
  induction a generalizing b with
  | nil => simp
  | cons row a ih =>
    cases b with
    | nil => simp
    | cons row' b =>
      rw [List.zip_cons_cons, List.forall_mem_cons, ih, List.cons_prefix_cons, List.cons_prefix_cons,
        eq_comm (a := row'), ← and_or_left]

private theorem length_rowText (row : List Cell) : (rowText row).length = 2 * row.length := by
  rw [rowText, String.length_ofList]
  induction row with
  | nil => rfl
  | cons cell row ih =>
    have longer : 2 * (cell :: row).length = 2 + 2 * row.length := by
      rw [List.length_cons, Nat.mul_succ, Nat.add_comm]
    rw [List.flatMap_cons, List.length_append, ih, longer]
    rfl

private theorem rowText_injective : Function.Injective rowText := by
  intro a b same
  have first := denotes_rowText a 0
  rw [same, denotes_rowText b 0] at first
  exact (Except.ok.inj first).symm

namespace Grid

variable {a b : Grid}

private theorem printedLines_display (g : Grid) : printedLines g.display = g.rows.map rowText := by
  rw [display_eq_unlines]
  apply printedLines_unlines
  exact fun line member => newline_notMem_of_unbroken (unbroken_of_mem_rowTexts line member)

private theorem display_injective : Function.Injective display := by
  intro a b same
  have lines := congrArg printedLines same
  rw [printedLines_display, printedLines_display] at lines
  exact rows_injective (rowText_injective.list_map lines)

private theorem eq_iff_fields : a = b ↔ a.width = b.width ∧ a.height = b.height ∧ a.cells = b.cells := by
  cases a
  cases b
  rw [mk.injEq]

private theorem eq_iff_get? : a = b ↔ a.width = b.width ∧ a.height = b.height ∧
    ∀ row col, a.get? row col = b.get? row col := by
  constructor
  · rintro rfl
    exact ⟨rfl, rfl, fun _ _ => rfl⟩
  · rintro ⟨width, height, same⟩
    exact ext_get? ⟨width, height⟩ fun row col _ _ => same row col

private theorem sameState_iff_chunks : a.sameState b = true ↔ a.SameSize b ∧
    ∀ pair ∈ (a.cells.toList.toChunks a.width).zip (b.cells.toList.toChunks b.width),
      pair.1 = pair.2 := by
  rw [toChunks_cells, toChunks_cells]
  simp only [sameState, Bool.and_eq_true, decide_eq_true_eq, List.all_eq_true, beq_iff_eq]

private theorem width_eq_iff_height_eq (cells : a.cells = b.cells) :
    a.width = b.width ↔ a.height = b.height := by
  have sizes : a.height * a.width = b.height * b.width := by
    rw [← a.size_cells, ← b.size_cells, cells]
  constructor
  · intro width
    rw [width] at sizes
    exact Nat.eq_of_mul_eq_mul_right b.width_pos sizes
  · intro height
    rw [height] at sizes
    exact Nat.eq_of_mul_eq_mul_left b.height_pos sizes

private theorem sameState_iff_width_eq (cells : a.cells = b.cells) :
    a.sameState b = true ↔ a.width = b.width := by
  rw [sameState_iff, eq_iff_fields, ← width_eq_iff_height_eq cells]
  simp [cells]

/-- Being the same state is equality, of the fields, of the sizes and cells, and of what is shown. From what is
shown the sizes can be told. Grids of different sizes are never the same state, although they may hold the same
cells in the same order or, as far as the rows go in pairs, the same rows. -/
theorem sameState_equality :
    (∀ a b : Grid, List.TFAE [
      a.sameState b = true,
      a.SameSize b ∧
        ∀ pair ∈ (a.cells.toList.toChunks a.width).zip (b.cells.toList.toChunks b.width),
          pair.1 = pair.2,
      (a == b) = true,
      a.width = b.width ∧ a.height = b.height ∧ a.cells = b.cells,
      a.width = b.width ∧ a.height = b.height ∧ ∀ row col, a.get? row col = b.get? row col,
      a.display = b.display]) ∧
    (∀ g : Grid, (printedLines g.display).length = g.height ∧
      ∀ line ∈ printedLines g.display, line.length = 2 * g.width) ∧
    (∀ a b : Grid, ¬ a.SameSize b → a.sameState b = false) ∧
    (∀ a b : Grid, a.cells = b.cells →
      (a.sameState b = true ↔ a.width = b.width) ∧ (a.sameState b = true ↔ a.height = b.height)) ∧
    (∀ a b : Grid, (∀ pair ∈ a.rows.zip b.rows, pair.1 = pair.2) ↔
      a.rows <+: b.rows ∨ b.rows <+: a.rows) ∧
    Equivalence fun a b : Grid => a.sameState b = true := by
  refine ⟨?_, ?_, ?_, ?_, fun _ _ => forall_mem_zip_iff, ?_⟩
  · intro a b
    refine List.tfae_of_forall (a = b) _ ?_
    simp only [List.forall_mem_cons]
    exact ⟨sameState_iff, sameState_iff_chunks.symm.trans sameState_iff, beq_iff_eq,
      eq_iff_fields.symm, eq_iff_get?.symm, display_injective.eq_iff, nofun⟩
  · intro g
    rw [printedLines_display, List.length_map, length_rows]
    refine ⟨rfl, ?_⟩
    intro line member
    obtain ⟨row, present, rfl⟩ := List.mem_map.1 member
    rw [length_rowText, length_of_mem_rows present]
  · intro a b sizes
    rw [← Bool.not_eq_true, sameState_iff_chunks]
    exact fun same => sizes same.1
  · intro a b cells
    rw [← width_eq_iff_height_eq cells]
    exact ⟨sameState_iff_width_eq cells, sameState_iff_width_eq cells⟩
  · simp only [sameState_iff]
    exact ⟨fun _ => rfl, Eq.symm, Eq.trans⟩

theorem sameState_equality_four :
    let wide := ofFn 4 1 (by decide) (by decide) fun _ col => if col = 1 then .alive else .dead
    let square := ofFn 2 2 (by decide) (by decide) fun row col =>
      if row = 0 ∧ col = 1 then .alive else .dead
    let tall := ofFn 1 4 (by decide) (by decide) fun row _ => if row = 1 then .alive else .dead
    (wide.cells = square.cells ∧ square.cells = tall.cells) ∧ ¬ wide.SameSize tall ∧
      ¬ wide.sameState square = true ∧ ¬ square.sameState tall = true ∧
      wide.sameState tall = false := by
  intro wide square tall
  have cells : wide.cells = square.cells := by decide
  have cells' : square.cells = tall.cells := by decide
  have sizes : ¬ wide.SameSize tall := by decide
  obtain ⟨-, -, different, flat, -, -⟩ := sameState_equality
  refine ⟨⟨cells, cells'⟩, sizes, ?_, ?_, different wide tall sizes⟩
  · rw [(flat wide square cells).1]
    decide
  · rw [(flat square tall cells').1]
    decide

end Grid

end GameOfLife

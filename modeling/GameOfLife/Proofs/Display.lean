import GameOfLife.Drawing
import GameOfLife.Proofs.Input.Lines
import GameOfLife.Proofs.Input.Rows

/-!
The text of a grid, line by line. Each row is written on a line of its own, and that line denotes the
row.
-/

set_option autoImplicit false
set_option relaxedAutoImplicit false

namespace GameOfLife

open Text

def rowText (row : List Cell) : String :=
  String.ofList (row.flatMap fun cell => [cell.digit, ' '])

theorem Cell.ofWord?_digit (cell : Cell) : Cell.ofWord? (String.ofList [cell.digit]) = some cell := by
  cases cell <;> decide

private theorem Cell.isBlank_digit (cell : Cell) : isBlank cell.digit = false := by
  cases cell <;> decide

theorem words_rowText (row : List Cell) :
    words (rowText row) = row.map fun cell => String.ofList [cell.digit] := by
  have digits : wordLists (row.flatMap fun cell => [cell.digit, ' ']) =
      row.map fun cell => [cell.digit] := by
    induction row with
    | nil => simp
    | cons cell row ih =>
      have word : wordLists [cell.digit] = [[cell.digit]] :=
        wordLists_eq_singleton (by simp [cell.isBlank_digit]) (by simp)
      have cut := wordLists_append_cons (by decide : isBlank ' ' = true) [cell.digit]
        (row.flatMap fun cell => [cell.digit, ' '])
      simpa [word, ih] using cut
  simp [words, rowText, digits]

theorem denotes_rowText (row : List Cell) : Denotes (rowText row) row := by
  rw [denotes_iff, words_rowText, List.forall₂_map_left_iff, List.forall₂_same]
  exact fun cell _ => cell.ofWord?_digit

theorem allBlank_rowText {row : List Cell} (h : row ≠ []) : allBlank (rowText row) = false := by
  cases row with
  | nil => exact absurd rfl h
  | cons cell row => simp [allBlank, rowText, cell.isBlank_digit]

theorem unbroken_rowText (row : List Cell) : Unbroken (rowText row) := by
  have digit : ∀ cell : Cell, Piece.isLineEnd cell.digit = false := by
    intro cell
    cases cell <;> decide
  intro c member
  simp only [rowText, String.toList_ofList, List.mem_flatMap, List.mem_cons, List.not_mem_nil,
    or_false] at member
  obtain ⟨cell, -, rfl | rfl⟩ := member
  · exact digit cell
  · decide

theorem Grid.unbroken_of_mem_rowTexts {g : Grid} : ∀ line ∈ g.rows.map rowText, Unbroken line :=
  List.forall_mem_map.2 fun row _ => unbroken_rowText row

theorem Grid.display_eq_unlines (g : Grid) : g.display = unlines (g.rows.map rowText) := by
  have line : ∀ row : List Cell, (Style.plain.row row).flatMap String.toList =
      (rowText row ++ "\n").toList := by
    intro row
    simp [Style.row, Style.cell, rowText, List.flatMap_assoc]
  rw [← String.toList_inj]
  simp only [display, draw, unlines, String.toList_join, List.flatMap_assoc, line, List.map_map,
    List.flatMap_map, Function.comp_apply]

end GameOfLife

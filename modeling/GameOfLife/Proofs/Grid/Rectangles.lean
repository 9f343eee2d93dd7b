import GameOfLife.Proofs.Grid.OfRows
import GameOfLife.Proofs.Grid.Representation

/-!
Rectangles of cells and grids are the same thing. The grid of a list of rows exists exactly if the list is a
rectangle, and then it has these rows and no others; every other list has one fault, and it is told which.
-/

set_option autoImplicit false
set_option relaxedAutoImplicit false

namespace GameOfLife.Grid

/-- At least one row, and in every row the same number of cells, at least one. -/
def Rectangular (rows : List (List Cell)) : Prop :=
  rows ≠ [] ∧ ∃ width, 0 < width ∧ ∀ row ∈ rows, row.length = width

/-- The row number `i`, of `found` cells, is the first one that has not as many as the top row, which has
`expected` cells and at least one. -/
structure Ragged (rows : List (List Cell)) (i expected found : Nat) : Prop where
  top : ∃ row, rows[0]? = some row ∧ row.length = expected ∧ 0 < expected
  other : ∃ row, rows[i]? = some row ∧ row.length = found ∧ found ≠ expected
  first : ∀ j row, j < i → rows[j]? = some row → row.length = expected

def rectangle (g : Grid) : { rows : List (List Cell) // Rectangular rows } :=
  ⟨g.rows, by
    refine ⟨?_, g.width, g.width_pos, fun _ => length_of_mem_rows⟩
    rw [← List.length_pos_iff, length_rows]
    exact g.height_pos⟩

section Rows

variable {rows : List (List Cell)} {g : Grid}

private theorem length_headD_eq_zero_iff :
    (rows.headD []).length = 0 ↔ rows = [] ∨ ∃ others, rows = [] :: others := by
  cases rows with
  | nil => simp
  | cons top others => simp

private theorem Rectangular.length_headD (h : Rectangular rows) :
    0 < (rows.headD []).length ∧ ∀ row ∈ rows, row.length = (rows.headD []).length := by
  obtain ⟨some, width, positive, lengths⟩ := h
  obtain ⟨top, others, rfl⟩ := List.exists_cons_of_ne_nil some
  have first : top.length = width := lengths top List.mem_cons_self
  rw [List.headD_cons, first]
  exact ⟨positive, lengths⟩

private theorem Ragged.length_headD {i expected found : Nat} (h : Ragged rows i expected found) :
    0 < (rows.headD []).length ∧ (rows.headD []).length = expected := by
  obtain ⟨top, present, length, positive⟩ := h.top
  have head : rows.headD [] = top := by
    rw [List.headD_eq_head?_getD, List.head?_eq_getElem?, present]
    rfl
  rw [head, length]
  exact ⟨positive, rfl⟩

private theorem ofRows_of_ragged {i expected found : Nat} (h : Ragged rows i expected found) :
    ofRows rows = .error (.ragged i expected found) := by
  obtain ⟨positive, width⟩ := h.length_headD
  obtain ⟨row, present, rfl, different⟩ := h.other
  rw [← width] at different ⊢
  refine ofRows_eq_ragged positive present different ?_
  intro j earlier before present'
  rw [width]
  exact h.first j earlier before present'

private theorem exists_ofRows_of_rectangular (h : Rectangular rows) : ∃ g, ofRows rows = .ok g := by
  obtain ⟨positive, lengths⟩ := h.length_headD
  obtain ⟨g, accepted, -⟩ := exists_ofRows_eq_ok positive lengths
  exact ⟨g, accepted⟩

private theorem exists_ragged (positive : 0 < (rows.headD []).length) (uneven : ¬ Rectangular rows) :
    ∃ i expected found, Ragged rows i expected found := by
  obtain ⟨top, others, rfl⟩ : ∃ top others, rows = top :: others := by
    refine List.exists_cons_of_ne_nil ?_
    rintro rfl
    exact Nat.lt_irrefl 0 positive
  have different : ¬ ∀ row ∈ top :: others, row.length = top.length := fun even =>
    uneven ⟨List.cons_ne_nil top others, top.length, positive, even⟩
  obtain ⟨i, row, -, present, other, first⟩ := exists_first_ragged different
  exact ⟨i, top.length, row.length, ⟨top, rfl, rfl, positive⟩, ⟨row, present, rfl, other⟩,
    fun j earlier before there => first j earlier before there⟩

/-- Every list of rows is of one of three kinds, and the result of building a grid tells which. -/
theorem ofRows_cases (rows : List (List Cell)) :
    ((rows.headD []).length = 0 ∧ ofRows rows = .error .empty) ∨
    (∃ i expected found, Ragged rows i expected found ∧
      ofRows rows = .error (.ragged i expected found)) ∨
    (Rectangular rows ∧ ∃ g, ofRows rows = .ok g) := by
  by_cases none : (rows.headD []).length = 0
  · exact .inl ⟨none, ofRows_eq_empty none⟩
  · by_cases even : Rectangular rows
    · exact .inr (.inr ⟨even, exists_ofRows_of_rectangular even⟩)
    · obtain ⟨i, expected, found, ragged⟩ := exists_ragged (Nat.pos_of_ne_zero none) even
      exact .inr (.inl ⟨i, expected, found, ragged, ofRows_of_ragged ragged⟩)

private theorem ofRows_eq_empty_iff :
    ofRows rows = .error .empty ↔ rows = [] ∨ ∃ others, rows = [] :: others := by
  rw [← length_headD_eq_zero_iff]
  refine ⟨?_, ofRows_eq_empty⟩
  intro h
  rcases ofRows_cases rows with ⟨none, -⟩ | ⟨i, expected, found, -, ragged⟩ | ⟨-, g, accepted⟩
  · exact none
  · rw [ragged] at h
    exact nomatch h
  · rw [accepted] at h
    exact nomatch h

private theorem ofRows_eq_ragged_iff {i expected found : Nat} :
    ofRows rows = .error (.ragged i expected found) ↔ Ragged rows i expected found := by
  refine ⟨?_, ofRows_of_ragged⟩
  intro h
  rcases ofRows_cases rows with ⟨-, empty⟩ | ⟨i, expected, found, ragged, refused⟩ | ⟨-, g, accepted⟩
  · rw [empty] at h
    exact nomatch h
  · rw [refused] at h
    cases h
    exact ragged
  · rw [accepted] at h
    exact nomatch h

private theorem exists_ofRows_iff : (∃ g, ofRows rows = .ok g) ↔ Rectangular rows := by
  refine ⟨?_, exists_ofRows_of_rectangular⟩
  rintro ⟨g, accepted⟩
  rw [← rows_of_ofRows accepted]
  exact g.rectangle.2

end Rows

private theorem bijective_rectangle : Function.Bijective rectangle := by
  constructor
  · intro a b same
    exact rows_injective (congrArg Subtype.val same)
  · rintro ⟨rows, even⟩
    obtain ⟨g, accepted⟩ := exists_ofRows_of_rectangular even
    exact ⟨g, Subtype.ext (rows_of_ofRows accepted)⟩

/-- Which rows are a grid, and nothing is lost. Without a row, or with an empty one at the top, a list is
empty, whatever else is in it; otherwise the first row of another length than the top one makes it ragged;
otherwise it is a rectangle, and there is a grid of its size with these rows, cell by cell. Conversely the rows
of every grid, also as its vector falls into them, make that grid and no other one. -/
theorem ofRows_rectangles :
    (∀ rows, ofRows rows = .error .empty ↔ rows = [] ∨ ∃ others, rows = [] :: others) ∧
    (∀ rows i expected found, ofRows rows = .error (.ragged i expected found) ↔
      Ragged rows i expected found) ∧
    (∀ rows, (∃ g, ofRows rows = .ok g) ↔ Rectangular rows) ∧
    (∀ rows g, ofRows rows = .ok g →
      (∀ row ∈ rows, row.length = g.width) ∧ rows.length = g.height ∧ g.rows = rows ∧
        g.cells.toList = rows.flatten ∧
        ∀ r c : Nat, g.get? r c = rows[r]?.bind fun row => row[c]?) ∧
    (∀ g : Grid, ofRows g.rows = .ok g ∧ ofRows (g.cells.toList.toChunks g.width) = .ok g) ∧
    (∀ (g : Grid) (n : Nat), ofRows (g.after n).rows = .ok (g.after n)) ∧
    Function.Bijective rectangle ∧
    ∀ rows g, ofRows rows = .ok g ↔ (g.rectangle : List (List Cell)) = rows := by
  refine ⟨fun _ => ofRows_eq_empty_iff, fun _ _ _ _ => ofRows_eq_ragged_iff, fun _ => exists_ofRows_iff,
    ?_, ?_, fun g n => ofRows_rows (g.after n), bijective_rectangle, fun _ _ => ofRows_eq_ok_iff⟩
  · rintro rows g accepted
    obtain rfl := rows_of_ofRows accepted
    exact ⟨fun _ => length_of_mem_rows, length_rows g, rfl, (flatten_rows g).symm,
      fun r c => (getElem?_getElem?_rows g r c).symm⟩
  · intro g
    rw [toChunks_cells]
    exact ⟨ofRows_rows g, ofRows_rows g⟩

theorem ofRows_rectangles_two :
    let rows : List (List Cell) := [[.dead, .alive, .dead], [.alive, .alive, .dead]]
    let g := ofFn 3 2 (by decide) (by decide) fun row col =>
      if col = 1 ∨ row = 1 ∧ col = 0 then .alive else .dead
    ofRows rows = .ok g ∧ rows.length = g.height ∧ g.rows = rows ∧ g.get? 1 0 = some .alive := by
  intro rows g
  obtain ⟨-, -, -, accepted, -⟩ := ofRows_rectangles
  have built : ofRows rows = .ok g := by decide
  obtain ⟨-, height, same, -, cells⟩ := accepted rows g built
  refine ⟨built, height, same, ?_⟩
  rw [cells]
  rfl

/-- An empty row at the top counts before any row that is too long. -/
example : ofRows [[], [.alive]] = .error .empty ∧
    ofRows [[.alive], [.dead], [], [.dead, .dead]] = .error (.ragged 2 1 0) := by
  decide

end GameOfLife.Grid

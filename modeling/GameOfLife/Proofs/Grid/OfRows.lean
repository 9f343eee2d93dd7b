import GameOfLife.Grid.Lemmas
import Mathlib.Data.Nat.Find

/-!
Which lists of rows are grids. A list without a cell in its first row is empty; any other list is a
grid, with exactly these rows, unless some row differs in length from the first, and then the first
such row is named.
-/

set_option autoImplicit false
set_option relaxedAutoImplicit false

namespace GameOfLife.Grid

theorem ofRows_eq_empty {rows : List (List Cell)} (h : (rows.headD []).length = 0) :
    ofRows rows = .error .empty := by
  simp only [ofRows]
  rw [dif_neg (by omega)]

theorem exists_ofRows_eq_ok {rows : List (List Cell)} (nonempty : 0 < (rows.headD []).length)
    (rectangular : ∀ row ∈ rows, row.length = (rows.headD []).length) :
    ∃ g, ofRows rows = .ok g ∧ g.rows = rows := by
  have accepted : ∃ g, ofRows rows = .ok g := by
    simp only [ofRows]
    rw [dif_pos nonempty, dif_pos rectangular]
    exact ⟨_, rfl⟩
  obtain ⟨g, hg⟩ := accepted
  exact ⟨g, hg, rows_of_ofRows hg⟩

theorem ofRows_eq_ragged {rows : List (List Cell)} {j : Nat} {row : List Cell}
    (nonempty : 0 < (rows.headD []).length) (present : rows[j]? = some row)
    (different : row.length ≠ (rows.headD []).length)
    (first : ∀ i earlier, i < j → rows[i]? = some earlier →
      earlier.length = (rows.headD []).length) :
    ofRows rows = .error (.ragged j (rows.headD []).length row.length) := by
  obtain ⟨bound, value⟩ := List.getElem?_eq_some_iff.1 present
  have notRectangular : ¬ ∀ row ∈ rows, row.length = (rows.headD []).length :=
    fun all => different (all row (List.mem_of_getElem? present))
  have place : rows.findIdx (fun row => decide (row.length ≠ (rows.headD []).length)) = j := by
    rw [List.findIdx_eq bound]
    refine ⟨by simpa [value] using different, ?_⟩
    intro i hi
    have same := first i _ hi (List.getElem?_eq_getElem (Nat.lt_trans hi bound))
    simpa using same
  simp only [ofRows]
  rw [dif_pos nonempty, dif_neg notRectangular, place, List.getD_eq_getElem?_getD, present]
  rfl

theorem exists_first_ragged {rows : List (List Cell)}
    (h : ¬ ∀ row ∈ rows, row.length = (rows.headD []).length) :
    ∃ j row, 0 < j ∧ rows[j]? = some row ∧ row.length ≠ (rows.headD []).length ∧
      ∀ i earlier, i < j → rows[i]? = some earlier →
        earlier.length = (rows.headD []).length := by
  have other : ∃ (j : Nat) (row : List Cell),
      rows[j]? = some row ∧ row.length ≠ (rows.headD []).length := by
    simp only [not_forall] at h
    obtain ⟨row, member, different⟩ := h
    obtain ⟨j, present⟩ := List.mem_iff_getElem?.1 member
    exact ⟨j, row, present, different⟩
  classical
  obtain ⟨j, ⟨row, present, different⟩, least⟩ := Nat.findX other
  have below : 0 < j := by
    rw [Nat.pos_iff_ne_zero]
    rintro rfl
    cases rows with
    | nil => simp at present
    | cons top rows => simp_all
  refine ⟨j, row, below, present, different, ?_⟩
  intro i earlier before there
  by_contra differ
  exact least i before ⟨earlier, there, differ⟩

end GameOfLife.Grid

import GameOfLife.Grid.Basic

/-!
The two views of a grid. `Grid.get?` has a cell exactly at the coordinates inside the grid and
determines the grid; `Grid.rows` has `height` rows of `width` cells, the same cells, and is undone by
`Grid.ofRows`.
-/

set_option autoImplicit false
set_option relaxedAutoImplicit false

namespace GameOfLife.Grid

theorem index_lt {g : Grid} {row col : Nat} (hrow : row < g.height) (hcol : col < g.width) :
    g.index row col < g.cells.size := by
  have next : (row + 1) * g.width ≤ g.height * g.width := Nat.mul_le_mul_right _ hrow
  rw [Nat.succ_mul] at next
  rw [g.size_cells, index]
  omega

theorem isSome_get? {g : Grid} {row col : Nat} :
    (g.get? row col).isSome = true ↔ row < g.height ∧ col < g.width := by
  unfold get?
  split
  · next inside => simpa [inside] using index_lt inside.1 inside.2
  · next outside => simpa using outside

theorem get?_eq_none_iff {g : Grid} {row col : Nat} :
    g.get? row col = none ↔ ¬ (row < g.height ∧ col < g.width) := by
  rw [← isSome_get?, ← Option.not_isSome_iff_eq_none]

theorem mem_coordinates {g : Grid} {row col : Nat} :
    (row, col) ∈ g.coordinates ↔ row < g.height ∧ col < g.width := by
  simp [coordinates]

theorem get?_ofFn {width height row col : Nat} (width_pos : 0 < width) (height_pos : 0 < height)
    (cellAt : Nat → Nat → Cell) :
    (ofFn width height width_pos height_pos cellAt).get? row col =
      if row < height ∧ col < width then some (cellAt row col) else none := by
  by_cases inside : row < height ∧ col < width
  · obtain ⟨hrow, hcol⟩ := inside
    have next : (row + 1) * width ≤ height * width := Nat.mul_le_mul_right _ hrow
    rw [Nat.succ_mul] at next
    have bound : row * width + col < height * width := by omega
    have quotient : (row * width + col) / width = row := by
      rw [Nat.mul_comm, Nat.mul_add_div width_pos, Nat.div_eq_of_lt hcol, Nat.add_zero]
    have remainder : (row * width + col) % width = col := by
      rw [Nat.mul_comm, Nat.mul_add_mod, Nat.mod_eq_of_lt hcol]
    simp [get?, ofFn, index, hrow, hcol, bound, quotient, remainder]
  · rw [if_neg inside]
    exact if_neg inside

theorem get?_eq_of_alive_iff {a b : Grid} {row col row' col' : Nat}
    (ha : row < a.height ∧ col < a.width) (hb : row' < b.height ∧ col' < b.width)
    (alive : a.get? row col = some .alive ↔ b.get? row' col' = some .alive) :
    a.get? row col = b.get? row' col' := by
  obtain ⟨cell, hcell⟩ := Option.isSome_iff_exists.1 (isSome_get?.2 ha)
  obtain ⟨cell', hcell'⟩ := Option.isSome_iff_exists.1 (isSome_get?.2 hb)
  rw [hcell, hcell', Option.some.injEq, Option.some.injEq] at alive
  have together : cell.isAlive = cell'.isAlive := by
    rw [Bool.eq_iff_iff, Cell.isAlive_iff, Cell.isAlive_iff]
    exact alive
  rw [hcell, hcell', Cell.isAlive_inj.1 together]

theorem ext_get? {a b : Grid} (size : a.SameSize b)
    (same : ∀ row col, row < a.height → col < a.width → a.get? row col = b.get? row col) : a = b := by
  obtain ⟨width, height⟩ := size
  have cells : a.cells = b.cells := by
    apply Array.ext
    · rw [a.size_cells, b.size_cells, width, height]
    · intro i ha hb
      have bound : i < a.width * a.height := by
        rw [Nat.mul_comm, ← a.size_cells]
        exact ha
      have hrow : i / a.width < a.height := Nat.div_lt_of_lt_mul bound
      have hcol : i % a.width < a.width := Nat.mod_lt _ a.width_pos
      have place : i / a.width * a.width + i % a.width = i := by
        rw [Nat.mul_comm]
        exact Nat.div_add_mod i a.width
      have cell := same _ _ hrow hcol
      simpa [get?, index, ← width, ← height, hrow, hcol, place, ha, hb] using cell
  cases a
  cases b
  simp_all

theorem length_rows (g : Grid) : g.rows.length = g.height := by
  simp [rows]

theorem getElem?_rows {g : Grid} {i : Nat} (h : i < g.height) : g.rows[i]? = some (g.row i) := by
  simp [rows, h]

theorem length_row {g : Grid} {i : Nat} (h : i < g.height) : (g.row i).length = g.width := by
  have next : (i + 1) * g.width ≤ g.height * g.width := Nat.mul_le_mul_right _ h
  rw [Nat.succ_mul] at next
  simp only [row, index, Array.length_toList, Array.size_extract, g.size_cells, Nat.succ_mul]
  omega

theorem getElem?_row {g : Grid} {i j : Nat} (hi : i < g.height) (hj : j < g.width) :
    (g.row i)[j]? = g.get? i j := by
  have size := length_row hi
  have place : i * g.width + j < g.cells.size := index_lt hi hj
  have inside : j < (g.row i).length := by omega
  rw [List.getElem?_eq_getElem inside]
  simp [row, get?, index, hi, hj, place]

theorem length_of_mem_rows {g : Grid} {row : List Cell} (h : row ∈ g.rows) :
    row.length = g.width := by
  simp only [rows, List.mem_map, List.mem_range] at h
  obtain ⟨i, hi, rfl⟩ := h
  exact length_row hi

theorem flatten_rows (g : Grid) : g.rows.flatten = g.cells.toList := by
  have upTo : ∀ n, n ≤ g.height →
      ((List.range n).map g.row).flatten = (g.cells.extract 0 (n * g.width)).toList := by
    intro n
    induction n with
    | zero => simp
    | succ n ih =>
      intro h
      rw [List.range_succ, List.map_append, List.flatten_append, ih (by omega)]
      simp only [List.map_singleton, List.flatten_singleton, row, index, Nat.add_zero]
      rw [← Array.toList_append, Array.extract_append_extract]
      simp [Nat.max_eq_right (Nat.mul_le_mul_right g.width (Nat.le_succ n))]
  rw [rows, upTo g.height (Nat.le_refl _), ← g.size_cells]
  simp

private theorem eq_of_flatten_eq {width : Nat} {a b : List (List Cell)}
    (ha : ∀ row ∈ a, row.length = width) (hb : ∀ row ∈ b, row.length = width)
    (length : a.length = b.length) (flat : a.flatten = b.flatten) : a = b := by
  induction a generalizing b with
  | nil => exact (List.length_eq_zero_iff.1 length.symm).symm
  | cons row a ih =>
    cases b with
    | nil => simp at length
    | cons row' b =>
      simp only [List.mem_cons, forall_eq_or_imp] at ha hb
      simp only [List.flatten_cons] at flat
      obtain ⟨head, tail⟩ := List.append_inj flat (ha.1.trans hb.1.symm)
      rw [head, ih ha.2 hb.2 (Nat.succ.inj length) tail]

theorem rows_of_ofRows {rows : List (List Cell)} {g : Grid} (h : ofRows rows = .ok g) :
    g.rows = rows := by
  simp only [ofRows] at h
  split at h
  · split at h
    · next rectangular =>
      injection h with grid
      have width : g.width = (rows.headD []).length := by rw [← grid]
      have height : g.height = rows.length := by rw [← grid]
      have cells : g.cells = rows.flatten.toArray := by rw [← grid]
      apply eq_of_flatten_eq (fun _ hrow => length_of_mem_rows hrow)
      · rw [width]
        exact rectangular
      · rw [length_rows, height]
      · rw [flatten_rows, cells]
    · exact nomatch h
  · exact nomatch h

theorem length_headD_rows (g : Grid) : (g.rows.headD []).length = g.width := by
  have nonempty := getElem?_rows g.height_pos
  rw [List.headD_eq_head?_getD, List.head?_eq_getElem?, nonempty]
  exact length_row g.height_pos

theorem ofRows_rows (g : Grid) : ofRows g.rows = .ok g := by
  have first := length_headD_rows g
  have rectangular : ∀ row ∈ g.rows, row.length = (g.rows.headD []).length := by
    intro row h
    rw [first, length_of_mem_rows h]
  have positive : 0 < (g.rows.headD []).length := by
    rw [first]
    exact g.width_pos
  simp only [ofRows, positive, ↓reduceDIte]
  rw [dif_pos rectangular]
  congr
  all_goals simp_all [length_rows, flatten_rows]

theorem rows_injective {a b : Grid} (h : a.rows = b.rows) : a = b := by
  have same := ofRows_rows a
  rw [h, ofRows_rows] at same
  exact (Except.ok.inj same).symm

theorem count_alive_flatten_rows (g : Grid) : g.rows.flatten.count .alive = g.population := by
  have same : (fun cell : Cell => cell == .alive) = Cell.isAlive := by
    funext cell
    cases cell <;> rfl
  rw [flatten_rows, population, List.count, same, ← Array.countP_toList]

end GameOfLife.Grid

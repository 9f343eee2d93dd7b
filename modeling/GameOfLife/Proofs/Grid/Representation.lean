import GameOfLife.Proofs.Grid.Words
import GameOfLife.Proofs.Verdict
import Mathlib.Data.Finset.Card

/-!
What the fields of a grid say. However a grid came about, it has a first row and a first column, and its
vector holds one cell for every coordinate, row by row. So a cell is found at the coordinates inside and at
no others, in words as in numbers, the vector falls into the rows, the live cells are counted once each,
and the cells determine the grid.
-/

set_option autoImplicit false
set_option relaxedAutoImplicit false

namespace GameOfLife.Grid

section Chunks

variable {α : Type} {size : Nat}

private theorem toChunksGo_append {taken rest : List α} {chunk : Array α} {chunks : Array (List α)}
    (room : chunk.size + taken.length ≤ size) :
    List.toChunks.go size (taken ++ rest) chunk chunks =
      List.toChunks.go size rest (chunk ++ taken.toArray) chunks := by
  induction taken generalizing chunk with
  | nil => simp
  | cons x taken ih =>
    rw [List.length_cons] at room
    have notFull : ¬ (chunk.size == size) = true := by
      rw [beq_iff_eq]
      omega
    rw [List.cons_append, List.toChunks.go, if_neg notFull, ih (by rw [Array.size_push]; omega)]
    simp

private theorem toChunksGo_flatten {pieces : List (List α)} {chunk : Array α} {chunks : Array (List α)}
    (positive : 0 < size) (even : ∀ piece ∈ pieces, piece.length = size) (full : chunk.size = size) :
    List.toChunks.go size pieces.flatten chunk chunks = chunks.toList ++ chunk.toList :: pieces := by
  induction pieces generalizing chunk chunks with
  | nil => simp [List.toChunks.go]
  | cons piece pieces ih =>
    obtain ⟨first, others⟩ := List.forall_mem_cons.1 even
    obtain ⟨x, piece, rfl⟩ := List.exists_cons_of_length_pos (first ▸ positive)
    rw [List.length_cons] at first
    rw [List.flatten_cons, List.cons_append, List.toChunks.go, if_pos (by rw [full, beq_self_eq_true]),
      toChunksGo_append (by simp; omega), ih others (by simp; omega)]
    simp

private theorem toChunks_flatten {pieces : List (List α)} (positive : 0 < size)
    (even : ∀ piece ∈ pieces, piece.length = size) : pieces.flatten.toChunks size = pieces := by
  cases pieces with
  | nil => rw [List.flatten_nil, List.toChunks]
  | cons piece pieces =>
    obtain ⟨first, others⟩ := List.forall_mem_cons.1 even
    obtain ⟨x, piece, rfl⟩ := List.exists_cons_of_length_pos (first ▸ positive)
    rw [List.length_cons] at first
    rw [List.flatten_cons, List.cons_append, List.toChunks, toChunksGo_append (by simp; omega),
      toChunksGo_flatten positive others (by simp; omega)]
    · simp
    · omega

end Chunks

theorem toChunks_cells (g : Grid) : g.cells.toList.toChunks g.width = g.rows := by
  rw [← flatten_rows]
  exact toChunks_flatten g.width_pos fun _ member => length_of_mem_rows member

theorem ofRows_eq_ok_iff {rows : List (List Cell)} {g : Grid} :
    ofRows rows = .ok g ↔ g.rows = rows := by
  constructor
  · exact rows_of_ofRows
  · rintro rfl
    exact ofRows_rows g

theorem getElem?_getElem?_rows (g : Grid) (row col : Nat) :
    (g.rows[row]?.bind fun cells => cells[col]?) = g.get? row col := by
  by_cases hrow : row < g.height
  · rw [getElem?_rows hrow, Option.bind_some]
    by_cases hcol : col < g.width
    · exact getElem?_row hrow hcol
    · rw [List.getElem?_eq_none (by rw [length_row hrow]; omega),
        get?_eq_none_iff.2 fun inside => hcol inside.2]
  · rw [List.getElem?_eq_none (by rw [length_rows]; omega), Option.bind_none,
      get?_eq_none_iff.2 fun inside => hrow inside.1]

private theorem row_eq_map {g : Grid} {i : Nat} (hi : i < g.height) :
    g.row i = (List.range g.width).map fun j => (g.get? i j).getD .dead := by
  apply List.ext_getElem?
  intro j
  by_cases hj : j < g.width
  · obtain ⟨cell, hcell⟩ := Option.isSome_iff_exists.1 (isSome_get?.2 ⟨hi, hj⟩)
    rw [getElem?_row hi hj, List.getElem?_map, List.getElem?_range hj, Option.map_some, hcell]
    rfl
  · rw [List.getElem?_eq_none (by rw [length_row hi]; omega),
      List.getElem?_eq_none (by rw [List.length_map, List.length_range]; omega)]

private theorem toList_cells (g : Grid) :
    g.cells.toList = g.coordinates.map fun place => (g.get? place.1 place.2).getD .dead := by
  rw [← flatten_rows, rows, coordinates, List.map_flatMap, List.flatMap]
  congr 1
  refine List.map_congr_left ?_
  intro i member
  rw [row_eq_map (List.mem_range.1 member), List.map_map]
  rfl

private theorem rows_ofFn {width height : Nat} (width_pos : 0 < width) (height_pos : 0 < height)
    (cellAt : Nat → Nat → Cell) :
    (ofFn width height width_pos height_pos cellAt).rows =
      (List.range height).map fun row => (List.range width).map (cellAt row) := by
  refine List.map_congr_left ?_
  intro row member
  have hrow : row < height := List.mem_range.1 member
  rw [row_eq_map hrow]
  refine List.map_congr_left ?_
  intro col member'
  rw [get?_ofFn, if_pos ⟨hrow, List.mem_range.1 member'⟩]
  rfl

theorem nodup_coordinates (g : Grid) : g.coordinates.Nodup :=
  (pairwise_coordinates g).imp ReadBefore.ne

theorem population_eq_countP (g : Grid) :
    g.population = g.coordinates.countP fun place => g.get? place.1 place.2 = some .alive := by
  have alive : ∀ place : Nat × Nat, (g.get? place.1 place.2).getD .dead = .alive ↔
      g.get? place.1 place.2 = some .alive := by
    intro place
    cases g.get? place.1 place.2 <;> simp
  rw [← count_alive_flatten_rows, flatten_rows, toList_cells, List.count, List.countP_map]
  refine List.countP_congr ?_
  intro place _
  simpa using alive place

private theorem population_eq_card (g : Grid) :
    g.population =
      (g.coordinates.filter fun place => g.get? place.1 place.2 = some .alive).toFinset.card := by
  rw [population_eq_countP, List.countP_eq_length_filter,
    List.toFinset_card_of_nodup ((nodup_coordinates g).filter _)]

theorem exists_get?_iff {g : Grid} {row col : Nat} :
    (∃ cell, g.get? row col = some cell) ↔ row < g.height ∧ col < g.width := by
  rw [← Option.isSome_iff_exists, isSome_get?]

/-- Every grid is what its own rows make and nothing else; its next generation is made of as many rows of as
many cells, and so are all that follow. Its vector is as long as there are coordinates, so that no look-up
inside misses and no place leaves the range of one vector; it falls into the rows; the population counts
the coordinates that are alive; and no other grid of the size has the same cells. -/
theorem rows_cells_get?_agree (g : Grid) :
    (1 ≤ g.width ∧ 1 ≤ g.height ∧ g.cells.size = g.width * g.height) ∧
    (∀ rows, ofRows rows = .ok g ↔ g.rows = rows) ∧
    (g.next.rows = (List.range g.height).map fun row => (List.range g.width).map fun col =>
      ((g.get? row col).getD .dead).step (g.liveNeighbors row col)) ∧
    (∀ n, (g.after n).SameSize g ∧ (g.after n).cells.size = g.width * g.height) ∧
    (∀ row col, (∃ cell, g.get? row col = some cell) ↔ row < g.height ∧ col < g.width) ∧
    (∀ row col, row < g.height → col < g.width → row * g.width + col < g.cells.size) ∧
    (g.Storable → g.width * g.height < 2 ^ 63 ∧
      (∀ row col, row < g.height → col < g.width → row * g.width + col < 2 ^ 63) ∧
      ∀ row col : UInt64, g.getAtWords? row col = some (g.get? row.toNat col.toNat)) ∧
    (g.cells.toList.toChunks g.width = g.rows ∧ g.rows.length = g.height ∧
      (∀ row ∈ g.rows, row.length = g.width) ∧
      (∀ row col : Nat, (g.rows[row]?.bind fun cells => cells[col]?) = g.get? row col) ∧
      g.rows.flatten = g.cells.toList) ∧
    (∃ live : Finset (Nat × Nat), (∀ row col, (row, col) ∈ live ↔ g.get? row col = some .alive) ∧
      g.population = live.card) ∧
    ∀ other : Grid, g.SameSize other → (∀ row col, g.get? row col = other.get? row col) →
      g = other := by
  refine ⟨⟨g.width_pos, g.height_pos, ?_⟩, fun _ => ofRows_eq_ok_iff, rows_ofFn ..,
    ?_, ?_, ?_, ?_, ?_, ?_, ?_⟩
  · rw [g.size_cells, Nat.mul_comm]
  · intro n
    refine ⟨⟨width_after g n, height_after g n⟩, ?_⟩
    rw [size_cells, width_after, height_after, Nat.mul_comm]
  · exact fun _ _ => exists_get?_iff
  · exact fun _ _ => index_lt
  · intro storable
    refine ⟨?_, fun _ _ => index_lt_of_storable storable, getAtWords?_eq storable⟩
    rw [Nat.mul_comm]
    exact height_mul_width_lt storable
  · exact ⟨toChunks_cells g, length_rows g, fun _ => length_of_mem_rows,
      getElem?_getElem?_rows g, flatten_rows g⟩
  · refine ⟨_, ?_, population_eq_card g⟩
    intro row col
    rw [List.mem_toFinset, List.mem_filter, mem_coordinates, decide_eq_true_iff, and_iff_right_iff_imp]
    intro alive
    exact exists_get?_iff.1 ⟨_, alive⟩
  · intro other size same
    exact ext_get? size fun row col _ _ => same row col

theorem rows_cells_get?_agree_row :
    let row := ofFn 3 1 (by decide) (by decide) fun _ col => if col = 2 then .alive else .dead
    row.Storable ∧ row.getAtWords? 0 2 = some (some .alive) ∧ row.getAtWords? 0 3 = some none ∧
      row.getAtWords? 18446744073709551615 0 = some none := by
  intro row
  have storable : row.Storable := by
    simp [row, Storable, ofFn]
  obtain ⟨-, -, -, -, -, -, words, -⟩ := rows_cells_get?_agree row
  have found := (words storable).2.2
  rw [found, found, found]
  exact ⟨storable, by decide, by decide, by decide⟩

end GameOfLife.Grid

import GameOfLife.Proofs.Display
import GameOfLife.Proofs.Input.Header
import GameOfLife.Proofs.Input.PlainGrid
import GameOfLife.Proofs.Input.SizedGrid

/-!
Grids written one after another, each in a layout of its own, are read back in order. Every read takes
exactly the lines that were written for its grid, so nothing is left in the end and the lines are all
counted.
-/

set_option autoImplicit false
set_option relaxedAutoImplicit false

namespace GameOfLife

open Text

/-- Whether both dimensions of a grid are unsigned 64-bit words, as the numbers of a header are and the
dimensions of every grid that a memory can hold. -/
def Grid.WordSized (g : Grid) : Prop :=
  g.height < UInt64.size ∧ g.width < UInt64.size

/-- A grid as it is written into an input: with a blank line behind it, or behind its header and a
number of blank lines. -/
inductive Written where
  | plain (grid : Grid)
  | sized (blanks : Nat) (grid : Grid) (fits : grid.WordSized)

namespace Written

def grid : Written → Grid
  | plain grid => grid
  | sized _ grid _ => grid

def layout : Written → Layout
  | plain _ => .plain
  | sized _ _ _ => .sized

def text : Written → String
  | plain grid => grid.display ++ "\n"
  | sized blanks grid _ =>
    String.join (List.replicate blanks "\n") ++ (grid.height.repr ++ " " ++ grid.width.repr ++ "\n") ++
      grid.display

def lines : Written → List String
  | plain grid => grid.rows.map rowText ++ [""]
  | sized blanks grid _ =>
    List.replicate blanks "" ++ headerText grid.height grid.width :: grid.rows.map rowText

theorem text_eq_unlines (item : Written) : item.text = unlines item.lines := by
  cases item with
  | plain grid =>
    rw [text, lines, unlines_append, Grid.display_eq_unlines]
    rfl
  | sized blanks grid fits =>
    have skipped : String.join (List.replicate blanks "\n") = unlines (List.replicate blanks "") := by
      simp [unlines]
    rw [text, lines, unlines_append, unlines_cons, Grid.display_eq_unlines, skipped,
      String.append_assoc]
    rfl

theorem unbroken_of_mem_lines {item : Written} : ∀ line ∈ item.lines, Unbroken line := by
  have empty : Unbroken "" := by simp [Unbroken]
  intro line member
  cases item with
  | plain grid =>
    simp only [lines, List.mem_append, List.mem_map, List.mem_singleton] at member
    rcases member with ⟨row, -, rfl⟩ | rfl
    · exact unbroken_rowText row
    · exact empty
  | sized blanks grid fits =>
    simp only [lines, List.mem_append, List.mem_cons, List.mem_map] at member
    rcases member with member | rfl | ⟨row, -, rfl⟩
    · rw [List.eq_of_mem_replicate member]
      exact empty
    · exact unbroken_headerText grid.height grid.width
    · exact unbroken_rowText row

end Written

theorem Grid.lines_display (g : Grid) : lines g.display = g.rows.map rowText := by
  rw [g.display_eq_unlines, lines_unlines Grid.unbroken_of_mem_rowTexts]

theorem Grid.holds_rows {g : Grid} {body : List Piece}
    (readable : body.map Piece.text = (g.rows.map rowText).map .ok) :
    List.Forall₂ Piece.Holds body g.rows := by
  refine Piece.holds_of_denotes readable ?_ ?_
  · intro text member
    obtain ⟨row, present, rfl⟩ := List.mem_map.1 member
    apply allBlank_rowText
    rw [← List.length_pos_iff, length_of_mem_rows present]
    exact g.width_pos
  · rw [List.forall₂_map_left_iff, List.forall₂_same]
    exact fun row _ => denotes_rowText row

namespace Reader

/-- Reading in its layout what was written takes the lines that were written and no more. -/
theorem yields_written {reader : Reader} {item : Written} {rest : List String}
    (readable : reader.pending.map Piece.text = (item.lines ++ rest).map .ok) :
    reader.Yields item.layout (.ok item.grid) item.lines.length := by
  obtain ⟨pending, line⟩ := reader
  have empty : allBlank "" = true := by decide
  -- The pieces are split as the lines were put together; `tail` holds the lines of `rest`.
  cases item with
  | plain g =>
    simp only [Written.lines, List.append_assoc, List.singleton_append, List.map_append,
      List.map_cons] at readable
    obtain ⟨body, tail, rfl, rows, others⟩ := List.map_eq_append_iff.1 readable
    obtain ⟨blank, tail, rfl, answer, -⟩ := List.map_eq_cons_iff.1 others
    have held := Grid.holds_rows rows
    have size : body.length = g.rows.length := held.length_eq
    have taken : readPlain ⟨body ++ blank :: tail, line⟩ = _ :=
      readPlain_of_held held ⟨"", answer, empty⟩ line tail
    simp [Yields, read, Written.layout, Written.grid, Written.lines, taken, size, List.drop_append]
  | sized blanks g fits =>
    simp only [Written.lines, List.append_assoc, List.cons_append, List.map_append,
      List.map_cons] at readable
    obtain ⟨skipped, tail, rfl, blank, others⟩ := List.map_eq_append_iff.1 readable
    obtain ⟨header, tail, rfl, answer, others⟩ := List.map_eq_cons_iff.1 others
    obtain ⟨body, tail, rfl, rows, -⟩ := List.map_eq_append_iff.1 others
    have held := Grid.holds_rows rows
    have size : body.length = g.rows.length := held.length_eq
    have count : skipped.length = blanks := by
      simpa using congrArg List.length blank
    have allBlank : ∀ piece ∈ skipped, piece.Blank := by
      intro piece member
      have text : piece.text ∈ (List.replicate blanks "").map .ok := by
        rw [← blank]
        exact List.mem_map_of_mem member
      simp only [List.map_replicate, List.mem_replicate] at text
      exact ⟨"", text.2, empty⟩
    have taken : readSized ⟨skipped ++ header :: (body ++ tail), line⟩ = _ :=
      readSized_of_held allBlank answer (allBlank_headerText g.height g.width)
        (headerSize?_headerText fits.1 fits.2) held line
    simp [Yields, read, Written.layout, Written.grid, Written.lines, taken, size, count,
      List.drop_append]
    omega

private theorem readAll_lines {reader : Reader} {items : List Written} {rest : List String}
    (readable : reader.pending.map Piece.text = (items.flatMap Written.lines ++ rest).map .ok) :
    readAll (items.map Written.layout) reader =
      (items.map fun item => .ok item.grid,
        ⟨reader.pending.drop (items.flatMap Written.lines).length,
          reader.line + (items.flatMap Written.lines).length⟩) := by
  -- Each read leaves the lines of the grids behind it and of `rest`, so the next one begins alike.
  induction items generalizing reader with
  | nil => simp [readAll]
  | cons item items ih =>
    rw [List.flatMap_cons, List.append_assoc] at readable
    have first := yields_written readable
    have remaining : (reader.pending.drop item.lines.length).map Piece.text =
        (items.flatMap Written.lines ++ rest).map .ok := by
      rw [List.map_drop, readable, ← List.map_drop, List.drop_left]
    have others := @ih ⟨reader.pending.drop item.lines.length, reader.line + item.lines.length⟩
      remaining
    rw [Yields] at first
    simp only [List.map_cons, readAll_cons, first, others, List.flatMap_cons, List.length_append,
      List.drop_drop, Nat.add_assoc]

theorem readAll_finished (layouts : List Layout) (line : Nat) :
    readAll layouts ⟨[], line⟩ = (layouts.map fun _ => .error (.grid line .empty), ⟨[], line⟩) := by
  induction layouts with
  | nil => rfl
  | cons layout layouts ih =>
    have none : Grid.ofRows [] = .error .empty := Grid.ofRows_eq_empty rfl
    have first : read layout ⟨[], line⟩ = (.error (.grid line .empty), ⟨[], line⟩) := by
      cases layout with
      | plain => simp [read, readPlain, takeRows, assemble, none]
      | sized => rfl
    rw [readAll_cons, first, ih, List.map_cons]

end Reader

private theorem Written.join_text_eq_unlines (items : List Written) :
    String.join (items.map Written.text) = unlines (items.flatMap Written.lines) := by
  induction items with
  | nil => rfl
  | cons item items ih =>
    rw [List.map_cons, String.join_cons, ih, List.flatMap_cons, unlines_append,
      item.text_eq_unlines]

private theorem Written.unbroken_of_mem_flatMap_lines (items : List Written) :
    ∀ line ∈ items.flatMap Written.lines, Unbroken line := by
  intro line member
  obtain ⟨item, -, member⟩ := List.mem_flatMap.1 member
  exact unbroken_of_mem_lines line member

namespace Reader

theorem readAll_text {text : String} {items : List Written} {rest : List String}
    (cut : lines text = items.flatMap Written.lines ++ rest) :
    ∃ pending, pending.map Piece.text = rest.map .ok ∧
      readAll (items.map Written.layout) (ofBytes (bytes text)) =
        (items.map fun item => .ok item.grid,
          ⟨pending, (items.flatMap Written.lines).length⟩) := by
  have readable := readable_ofBytes text
  rw [cut] at readable
  refine ⟨(ofBytes (bytes text)).pending.drop (items.flatMap Written.lines).length, ?_, ?_⟩
  · rw [List.map_drop, readable, ← List.map_drop, List.drop_left]
  · have counted : (ofBytes (bytes text)).line + (items.flatMap Written.lines).length =
        (items.flatMap Written.lines).length := Nat.zero_add _
    rw [readAll_lines readable, counted]

theorem readPlain_display (g : Grid) :
    (ofBytes (bytes g.display)).readPlain = (.ok g, ⟨[], g.height⟩) := by
  have readable := readable_ofBytes g.display
  rw [g.lines_display] at readable
  have held := Grid.holds_rows readable
  have taken : readPlain ⟨(ofBytes (bytes g.display)).pending, 0⟩ = _ := readPlain_of_held_end held 0
  rw [held.length_eq, g.length_rows, Nat.zero_add] at taken
  exact taken

/-- Grids written one after another, in any mixture of layouts, are read back in order; all input is
taken and every line of it is counted, and no grid is read from then on. Behind the last grid of a
plain layout the blank line may be missing. -/
theorem readAll_written (items : List Written) :
    let text := String.join (items.map Written.text)
    let finished : Reader := ⟨[], (lines text).length⟩
    readAll (items.map Written.layout) (ofBytes (bytes text)) =
        (items.map fun item => .ok item.grid, finished) ∧
      (∀ layouts, readAll layouts finished =
        (layouts.map fun _ => .error (.grid finished.line .empty), finished)) ∧
      ∀ g : Grid, readAll (items.map Written.layout ++ [.plain]) (ofBytes (bytes (text ++ g.display))) =
        ((items.map fun item => .ok item.grid) ++ [.ok g],
          ⟨[], (lines (text ++ g.display)).length⟩) := by
  intro text finished
  have written : text = unlines (items.flatMap Written.lines) := Written.join_text_eq_unlines items
  have unbroken := Written.unbroken_of_mem_flatMap_lines items
  refine ⟨?_, fun layouts => readAll_finished layouts _, ?_⟩
  · have cut : lines text = items.flatMap Written.lines := by
      rw [written, lines_unlines unbroken]
    obtain ⟨pending, readable, taken⟩ := readAll_text (by rw [cut, List.append_nil])
    have none : pending = [] := by simpa using readable
    rw [taken, none, ← cut]
  · intro g
    have rows : ∀ line ∈ g.rows.map rowText, Unbroken line := by
      intro line member
      obtain ⟨row, -, rfl⟩ := List.mem_map.1 member
      exact unbroken_rowText row
    have cut : lines (text ++ g.display) = items.flatMap Written.lines ++ g.rows.map rowText := by
      rw [written, g.display_eq_unlines, lines_unlines_append unbroken, lines_unlines rows]
    -- The rows of the last grid are all that is left, and the end of the input ends them.
    obtain ⟨pending, readable, taken⟩ := readAll_text cut
    have held := Grid.holds_rows readable
    have last : read .plain ⟨pending, (items.flatMap Written.lines).length⟩ = _ :=
      readPlain_of_held_end held _
    have count : pending.length = (g.rows.map rowText).length :=
      held.length_eq.trans (List.length_map ..).symm
    rw [readAll_append, taken, readAll_cons, last, cut, List.length_append, count]
    rfl

end Reader

end GameOfLife

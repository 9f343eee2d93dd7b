import GameOfLife.Proofs.Input.RoundTrip
import GameOfLife.Proofs.Text.Signals

/-!
Drawings in colour as a terminal takes them. Every digit stands between the escape sequence of its cell and
one that gives the colour back, so nothing else is coloured, what is visible is the plain drawing, and the
colours and the newlines are enough to find the grid again.
-/

set_option autoImplicit false
set_option relaxedAutoImplicit false

namespace GameOfLife

open Text

namespace Text

/-- The cell that a colour stands for: bright green for a live one, dark grey for a dead one. -/
def Mark.cell? : Mark → Option Cell
  | .color n => if n = 10 then some .alive else if n = 8 then some .dead else none
  | .newline => none

/-- The rows that marks stand for: one for each newline, with the cells in front of it. -/
def markedRows (marks : List Mark) : List (List Cell) :=
  (marks.splitOn .newline).dropLast.map fun row => row.filterMap Mark.cell?

/-- Whether `a` stands in one of the blocks, and how the block goes on around it. -/
def InBlock {α : Type} (blocks : List (List α)) (before : List α) (a : α) (after : List α) : Prop :=
  ∃ block ∈ blocks, ∃ front back others more, block = front ++ a :: back ∧ before = others ++ front ∧
    after = back ++ more

private theorem InBlock.later {α : Type} {blocks : List (List α)} {before after : List α} {a : α}
    (h : InBlock blocks before a after) (block : List α) :
    InBlock (block :: blocks) (block ++ before) a after := by
  obtain ⟨other, member, front, back, others, more, split, rfl, rfl⟩ := h
  exact ⟨other, List.mem_cons_of_mem block member, front, back, block ++ others, more, split,
    (List.append_assoc ..).symm, rfl⟩

private theorem inBlock_of_flatten {α : Type} {blocks : List (List α)} {before after : List α} {a : α}
    (h : blocks.flatten = before ++ a :: after) : InBlock blocks before a after := by
  induction blocks generalizing before with
  | nil => simp at h
  | cons block blocks ih =>
    rw [List.flatten_cons, List.append_eq_append_iff] at h
    rcases h with ⟨others, rfl, found⟩ | ⟨rest, rfl, found⟩
    · exact (ih found).later block
    · cases rest with
      | nil => simpa using (@ih [] found.symm).later before
      | cons c rest =>
        obtain ⟨rfl, rfl⟩ := List.cons.inj found
        exact ⟨before ++ a :: rest, List.mem_cons_self, before, rest, [], blocks.flatten, rfl, rfl, rfl⟩

end Text

namespace Cell

/-- The colour of a cell in the palette of a terminal: bright green if alive, dark grey if dead. -/
def color : Cell → Nat
  | alive => 10
  | dead => 8

/-- The escape sequence that sets the colour of a cell, without its first and its last character. -/
def sequence : Cell → List Char
  | alive => "[38;5;10".toList
  | dead => "[38;5;8".toList

def signals (cell : Cell) : List Signal :=
  [.escape cell.sequence, .shown cell.digit, .escape resetSequence, .shown ' ']

private theorem cell?_color (cell : Cell) : Mark.cell? (.color cell.color) = some cell := by
  cases cell <;> rfl

private theorem digit_ne_newline (cell : Cell) : cell.digit ≠ '\n' := by
  cases cell <;> decide

private theorem ink?_sequence (cell : Cell) : ink? cell.sequence = some (some cell.color) := by
  cases cell <;> decide +kernel

private theorem text_signals (cell : Cell) :
    (Style.color.cell cell).flatMap String.toList = cell.signals.flatMap Signal.text := by
  cases cell <;> decide

private theorem proper_of_mem_signals {cell : Cell} : ∀ signal ∈ cell.signals, signal.Proper := by
  cases cell <;> decide

private theorem painted_signals (cell : Cell) (rest : List Signal) :
    painted none (cell.signals ++ rest) = (cell.digit, some cell.color) :: (' ', none) :: painted none rest := by
  simp [signals, painted, Signal.inkAfter, ink?_sequence, ink?_resetSequence]

private theorem marks_signals (cell : Cell) : cell.signals.filterMap Signal.mark? = [.color cell.color] := by
  simp [signals, Signal.mark?, ink?_sequence, ink?_resetSequence, digit_ne_newline]

private theorem eq_of_signals {cell : Cell} {front back : List Signal} {c : Char}
    (h : cell.signals = front ++ .shown c :: back) (value : c = '0' ∨ c = '1') :
    c = cell.digit ∧ front = [.escape cell.sequence] ∧
      back = [.escape resetSequence, .shown ' '] := by
  rw [signals] at h
  match front, h with
  | [], h => simp at h
  | [_], h => simpa [eq_comm, and_left_comm] using h
  | [_, _], h => simp at h
  | [_, _, _], h =>
    -- The other character that is shown is the space.
    have space : ' ' = c := by
      simp only [List.cons_append, List.nil_append, List.cons.injEq, Signal.shown.injEq] at h
      exact h.2.2.2.1
    rcases value with rfl | rfl <;> exact absurd space (by decide)
  | _ :: _ :: _ :: _ :: _, h => simp at h

end Cell

def rowSignals (row : List Cell) : List Signal :=
  row.flatMap Cell.signals ++ [.shown '\n']

def rowMarks (row : List Cell) : List Mark :=
  row.map (fun cell => .color cell.color) ++ [.newline]

namespace Grid

def signals (g : Grid) : List Signal :=
  g.rows.flatMap rowSignals

def picture (g : Grid) : List (Char × Ink) :=
  g.rows.flatMap fun row =>
    row.flatMap (fun cell => [(cell.digit, some cell.color), (' ', none)]) ++ [('\n', none)]

section Signals

variable (g : Grid)

private theorem toList_join_draw_color :
    (String.join (g.draw .color)).toList = g.signals.flatMap Signal.text := by
  have row : ∀ row : List Cell, (Style.color.row row).flatMap String.toList =
      (rowSignals row).flatMap Signal.text := by
    intro row
    simp [Style.row, rowSignals, List.flatMap_assoc, Cell.text_signals, Signal.text]
  simp only [draw, String.toList_join, List.flatMap_assoc, signals, row]

private theorem proper_of_mem_signals : ∀ signal ∈ g.signals, signal.Proper := by
  intro signal member
  obtain ⟨row, -, member⟩ := List.mem_flatMap.1 member
  rcases List.mem_append.1 member with member | member
  · obtain ⟨cell, -, member⟩ := List.mem_flatMap.1 member
    exact Cell.proper_of_mem_signals signal member
  · rw [List.mem_singleton.1 member]
    decide

private theorem signals_join_draw_color_append (after : String) :
    Text.signals (String.join (g.draw .color) ++ after) = g.signals ++ Text.signals after := by
  rw [Text.signals, String.toList_append, toList_join_draw_color]
  exact signalsFrom_flatMap_text_append g.proper_of_mem_signals after.toList

private theorem signals_join_draw_color : Text.signals (String.join (g.draw .color)) = g.signals := by
  have whole := g.signals_join_draw_color_append ""
  have none : Text.signals "" = [] := rfl
  rwa [String.append_empty, none, List.append_nil] at whole

private theorem shown_signals : g.signals.filterMap Signal.shown? = g.display.toList := by
  have cell : ∀ cell : Cell, cell.signals.filterMap Signal.shown? = [cell.digit, ' '] := fun _ => rfl
  simp [signals, rowSignals, display, draw, Style.row, Style.cell, List.filterMap_flatMap,
    List.flatMap_assoc, cell, Signal.shown?]

private theorem visible_join_draw_color : visible (String.join (g.draw .color)) = g.display := by
  rw [visible_eq, signals_join_draw_color, shown_signals, String.ofList_toList]

private theorem painted_rowSignals_append (row : List Cell) (rest : List Signal) :
    painted none (rowSignals row ++ rest) =
      row.flatMap (fun cell => [(cell.digit, some cell.color), (' ', none)]) ++
        ('\n', none) :: painted none rest := by
  induction row with
  | nil => rfl
  | cons cell row ih =>
    have cut : rowSignals (cell :: row) ++ rest = cell.signals ++ (rowSignals row ++ rest) := by
      simp [rowSignals]
    rw [cut, cell.painted_signals, ih]
    rfl

private theorem painted_signals_append (rest : List Signal) :
    painted none (g.signals ++ rest) = g.picture ++ painted none rest := by
  unfold signals picture
  induction g.rows with
  | nil => rfl
  | cons row rows ih =>
    rw [List.flatMap_cons, List.append_assoc, painted_rowSignals_append, ih, List.flatMap_cons]
    simp

private theorem painted_signals : painted none g.signals = g.picture := by
  have whole := g.painted_signals_append []
  rwa [List.append_nil, painted, List.append_nil] at whole

private theorem ink_of_mem_picture {c : Char} {ink : Ink} (h : (c, ink) ∈ g.picture) :
    ink = if c = '1' then some 10 else if c = '0' then some 8 else none := by
  obtain ⟨row, -, member⟩ := List.mem_flatMap.1 h
  rcases List.mem_append.1 member with member | member
  · obtain ⟨cell, -, member⟩ := List.mem_flatMap.1 member
    rcases List.mem_cons.1 member with same | member
    · obtain ⟨rfl, rfl⟩ := Prod.mk.inj same
      cases cell <;> rfl
    · obtain ⟨rfl, rfl⟩ := Prod.mk.inj (List.mem_singleton.1 member)
      rfl
  · obtain ⟨rfl, rfl⟩ := Prod.mk.inj (List.mem_singleton.1 member)
    rfl

private theorem signals_eq_flatten :
    g.signals = (g.rows.flatMap fun row => row.map Cell.signals ++ [[.shown '\n']]).flatten := by
  unfold signals
  induction g.rows with
  | nil => rfl
  | cons row rows ih =>
    have blocks : rowSignals row = (row.map Cell.signals ++ [[Signal.shown '\n']]).flatten := by
      simp [rowSignals, List.flatMap_def]
    rw [List.flatMap_cons, List.flatMap_cons, List.flatten_append, ih, blocks]

private theorem around_value {before after : List Signal} {c : Char}
    (found : g.signals = before ++ .shown c :: after) (value : c = '0' ∨ c = '1') :
    ∃ (cell : Cell) (others more : List Signal), c = cell.digit ∧ before = others ++ [.escape cell.sequence] ∧
      after = .escape resetSequence :: .shown ' ' :: more := by
  rw [signals_eq_flatten] at found
  obtain ⟨block, member, front, back, others, more, split, rfl, rfl⟩ := inBlock_of_flatten found
  obtain ⟨row, -, member⟩ := List.mem_flatMap.1 member
  rcases List.mem_append.1 member with member | member
  · obtain ⟨cell, -, rfl⟩ := List.mem_map.1 member
    obtain ⟨digit, rfl, rfl⟩ := Cell.eq_of_signals split value
    exact ⟨cell, others, more, digit, rfl, rfl⟩
  · -- The newline behind a row is no value.
    rw [List.mem_singleton.1 member] at split
    have newline : c = '\n' ∧ back = [] := by
      cases front with
      | nil => simpa [eq_comm] using split
      | cons => simp at split
    rcases value with rfl | rfl <;> exact absurd newline.1 (by decide)

private theorem marks_join_draw_color : marks (String.join (g.draw .color)) = g.rows.flatMap rowMarks := by
  have row : ∀ row : List Cell, (rowSignals row).filterMap Signal.mark? = rowMarks row := by
    intro row
    have newline : Signal.mark? (.shown '\n') = some .newline := rfl
    simp [rowSignals, rowMarks, List.filterMap_flatMap, Cell.marks_signals, newline,
      List.map_eq_flatMap]
  rw [marks, signals_join_draw_color, signals, List.filterMap_flatMap]
  simp only [row]

private theorem markedRows_flatMap_rowMarks (rows : List (List Cell)) :
    markedRows (rows.flatMap rowMarks) = rows := by
  induction rows with
  | nil => rfl
  | cons row rows ih =>
    have front : Mark.newline ∉ row.map fun cell => .color cell.color := by simp
    have cells : (row.map fun cell => Mark.color cell.color).filterMap Mark.cell? = row := by
      simp [List.filterMap_map, Cell.cell?_color]
    have more : (rows.flatMap rowMarks).splitOn .newline ≠ [] := List.splitOnP_ne_nil _ _
    rw [List.flatMap_cons, rowMarks, List.append_assoc, List.singleton_append, markedRows,
      splitOn_append_cons front, List.dropLast_cons_of_ne_nil more, List.map_cons, cells]
    exact congrArg (row :: ·) ih

end Signals

/-- Colour changes no character that is visible, and loses nothing. Without its escape sequences a drawing in
colour is the plain one, and that is read as the grid. It is made of signals of which every value stands
directly behind the sequence of its colour, bright green for a one and dark grey for a zero, and in front of
the reset and its space. So nothing else is coloured, neither in the drawing nor behind it, and the colours and
the newlines alone give the grid back. -/
theorem colored_drawing (g : Grid) :
    let colored := String.join (g.draw .color)
    let plain := String.join (g.draw .plain)
    let taken := Text.signals colored
    (visible colored = plain ∧ plain = g.display ∧
      (Reader.ofBytes (bytes (visible colored))).readPlain = (.ok g, ⟨[], g.height⟩)) ∧
    (taken.flatMap Signal.text = colored.toList ∧
      taken.filterMap Signal.shown? = plain.toList) ∧
    (∀ before c after, taken = before ++ .shown c :: after → c = '0' ∨ c = '1' →
      ∃ others more,
        before = others ++ [.escape (if c = '1' then "[38;5;10".toList else "[38;5;8".toList)] ∧
        after = .escape "[0".toList :: .shown ' ' :: more) ∧
    (∀ c ink, (c, ink) ∈ painted none taken →
      ink = if c = '1' then some 10 else if c = '0' then some 8 else none) ∧
    (∀ after : String, painted none (Text.signals (colored ++ after)) =
      painted none taken ++ painted none (Text.signals after)) ∧
    ofRows (markedRows (marks colored)) = .ok g ∧
    ∀ other : Grid, marks (String.join (other.draw .color)) = marks colored → other = g := by
  intro colored plain taken
  have signals : taken = g.signals := g.signals_join_draw_color
  have shown : visible colored = g.display := g.visible_join_draw_color
  have rows : ∀ h : Grid, markedRows (marks (String.join (h.draw .color))) = h.rows := by
    intro h
    rw [marks_join_draw_color, markedRows_flatMap_rowMarks]
  refine ⟨⟨shown, rfl, ?_⟩, ⟨?_, ?_⟩, ?_, ?_, ?_, ?_, ?_⟩
  · rw [shown]
    exact Reader.readPlain_display g
  · rw [signals]
    exact g.toList_join_draw_color.symm
  · rw [signals]
    exact g.shown_signals
  · intro before c after found value
    rw [signals] at found
    obtain ⟨cell, others, more, rfl, front, back⟩ := g.around_value found value
    refine ⟨others, more, ?_, back⟩
    rw [front]
    cases cell <;> rfl
  · intro c ink member
    rw [signals, painted_signals] at member
    exact g.ink_of_mem_picture member
  · intro after
    rw [signals, signals_join_draw_color_append, painted_signals_append, painted_signals]
  · rw [rows]
    exact ofRows_rows g
  · intro other same
    apply rows_injective
    rw [← rows other, same, rows]

theorem colored_drawing_two :
    let g := ofFn 2 1 (by decide) (by decide) fun _ col => if col = 0 then .alive else .dead
    let taken := Text.signals (String.join (g.draw .color))
    let before : List Signal := [.escape "[38;5;10".toList, .shown '1', .escape "[0".toList, .shown ' ',
      .escape "[38;5;8".toList]
    let after : List Signal := [.escape "[0".toList, .shown ' ', .shown '\n']
    taken = before ++ .shown '0' :: after ∧ ('0', some 8) ∈ painted none taken ∧
      (∃ others, before = others ++ [.escape "[38;5;8".toList]) ∧
      ∃ more, after = .escape "[0".toList :: .shown ' ' :: more := by
  intro g taken before after
  have cut : taken = before ++ .shown '0' :: after := by decide +kernel
  have dead : ('0', some 8) ∈ painted none taken := by decide +kernel
  obtain ⟨-, -, around, -⟩ := colored_drawing g
  obtain ⟨others, more, front, back⟩ := around before '0' after cut (.inl rfl)
  exact ⟨cut, dead, ⟨others, front⟩, more, back⟩

end Grid

end GameOfLife

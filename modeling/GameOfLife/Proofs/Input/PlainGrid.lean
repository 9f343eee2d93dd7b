import GameOfLife.Proofs.Grid.OfRows
import GameOfLife.Proofs.Input.Pieces
import Mathlib.Data.Nat.Find

/-!
What reading a plain grid makes of the lines in front of it. A malformed line is reported as soon as
it is read; that there is no row, or a row of the wrong length, shows only at the blank line or at the
end of the input. Every outcome takes a number of lines, all of which are counted.
-/

set_option autoImplicit false
set_option relaxedAutoImplicit false

namespace GameOfLife.Reader

private theorem takeRows_append {body : List Piece} {rows : List (List Cell)}
    (h : List.Forall₂ Piece.Holds body rows) (line : Nat) (rest : List Piece) :
    takeRows line (body ++ rest) =
      ((takeRows (line + body.length) rest).1.map (rows ++ ·),
        (takeRows (line + body.length) rest).2) := by
  induction h generalizing line with
  | nil =>
    simp only [List.nil_append, List.length_nil, Nat.add_zero]
    generalize takeRows line rest = answer
    obtain ⟨result, after⟩ := answer
    cases result <;> rfl
  | @cons piece row body rows holds _ ih =>
    obtain ⟨text, readable, visible, denotes⟩ := holds
    have next : line + 1 + body.length = line + (body.length + 1) := by omega
    simp only [List.cons_append, takeRows, readable, visible, Bool.false_eq_true, if_false,
      denotes (line + 1), ih (line + 1), next, List.length_cons]
    cases (takeRows (line + (body.length + 1)) rest).1 <;> rfl

section Ends

variable {body : List Piece} {rows : List (List Cell)} {piece : Piece} {text : String}

private theorem takeRows_malformed (h : List.Forall₂ Piece.Holds body rows)
    (readable : piece.text = .ok text) (visible : Text.allBlank text = false) {line : Nat}
    {e : ReadError} (refused : parseRow text (line + (body.length + 1)) = .error e)
    (rest : List Piece) :
    takeRows line (body ++ piece :: rest) =
      (.error e, ⟨rest, line + (body.length + 1)⟩) := by
  have next : line + body.length + 1 = line + (body.length + 1) := by omega
  rw [takeRows_append h]
  simp [takeRows, readable, visible, next, refused, Except.map]

private theorem takeRows_blank (h : List.Forall₂ Piece.Holds body rows)
    (readable : piece.text = .ok text) (blank : Text.allBlank text = true) (line : Nat)
    (rest : List Piece) :
    takeRows line (body ++ piece :: rest) = (.ok rows, ⟨rest, line + (body.length + 1)⟩) := by
  rw [takeRows_append h]
  simp [takeRows, readable, blank, Except.map, Nat.add_assoc]

private theorem takeRows_end (h : List.Forall₂ Piece.Holds body rows) (line : Nat) :
    takeRows line body = (.ok rows, ⟨[], line + body.length⟩) := by
  have whole := takeRows_append h line []
  rw [List.append_nil] at whole
  rw [whole]
  simp [takeRows, Except.map]

theorem readPlain_of_held {g : Grid} (h : List.Forall₂ Piece.Holds body g.rows)
    (blank : piece.Blank) (line : Nat) (rest : List Piece) :
    readPlain ⟨body ++ piece :: rest, line⟩ = (.ok g, ⟨rest, line + (body.length + 1)⟩) := by
  obtain ⟨text, readable, blank⟩ := blank
  simp only [readPlain, takeRows_blank h readable blank, assemble, Grid.ofRows_rows]

theorem readPlain_of_held_end {g : Grid} (h : List.Forall₂ Piece.Holds body g.rows) (line : Nat) :
    readPlain ⟨body, line⟩ = (.ok g, ⟨[], line + body.length⟩) := by
  simp only [readPlain, takeRows_end h, assemble, Grid.ofRows_rows]

end Ends

/-- How many lines stand before the first blank one, or in all, if none is blank. -/
def linesBeforeBlank (lines : List String) : Nat :=
  lines.findIdx Text.allBlank

theorem linesBeforeBlank_le (lines : List String) : linesBeforeBlank lines ≤ lines.length :=
  List.findIdx_le_length

private theorem not_blank_of_lt {lines : List String} {i : Nat} {text : String}
    (h : i < linesBeforeBlank lines) (present : lines[i]? = some text) :
    Text.allBlank text = false := by
  obtain ⟨bound, rfl⟩ := List.getElem?_eq_some_iff.1 present
  exact List.not_of_lt_findIdx h

private theorem getElem?_of_mem_take {lines : List String} {n : Nat} {text : String}
    (h : text ∈ lines.take n) : ∃ i < n, lines[i]? = some text := by
  obtain ⟨i, bound, rfl⟩ := List.mem_take_iff_getElem.1 h
  exact ⟨i, by omega, List.getElem?_eq_getElem (by omega)⟩

/-- What reading a plain grid makes of the lines in front of a reader. The first malformed line before
any blank one is reported, however long the rows above it. Otherwise the lines up to the blank one are
taken, and that too if there is one: without any row the grid is empty, the first row of another length
than the top row is reported at its own line, and without such a row the rows are the grid. -/
structure PlainOutcome (reader : Reader) (lines : List String) : Prop where
  malformed : ∀ i text, i < linesBeforeBlank lines → lines[i]? = some text → Malformed text →
    (∀ j earlier, j < i → lines[j]? = some earlier → ¬ Malformed earlier) →
    ∃ e, parseRow text (reader.line + (i + 1)) = .error e ∧
      reader.Yields .plain (.error e) (i + 1)
  noLine : lines = [] → reader.Yields .plain (.error (.grid reader.line .empty)) 0
  blankLine : lines ≠ [] → linesBeforeBlank lines = 0 →
    reader.Yields .plain (.error (.grid (reader.line + 1) .empty)) 1
  rows : 0 < linesBeforeBlank lines →
    (∀ i text, i < linesBeforeBlank lines → lines[i]? = some text → ¬ Malformed text) →
    ∃ rows, List.Forall₂ Denotes (lines.take (linesBeforeBlank lines)) rows ∧
      (∀ j row, rows[j]? = some row → row.length ≠ (rows.headD []).length →
        (∀ i earlier, i < j → rows[i]? = some earlier →
          earlier.length = (rows.headD []).length) →
        reader.Yields .plain
          (.error (.grid (reader.line + 1 + j) (.ragged j (rows.headD []).length row.length)))
          (min (linesBeforeBlank lines + 1) lines.length)) ∧
      ((∀ row ∈ rows, row.length = (rows.headD []).length) →
        ∃ g : Grid, g.rows = rows ∧
          reader.Yields .plain (.ok g) (min (linesBeforeBlank lines + 1) lines.length))

theorem PlainOutcome.exists_malformed {reader : Reader} {lines : List String}
    (outcome : PlainOutcome reader lines)
    (bad : ∃ i text, i < linesBeforeBlank lines ∧ lines[i]? = some text ∧ Malformed text) :
    ∃ i text e, i < linesBeforeBlank lines ∧ lines[i]? = some text ∧ Malformed text ∧
      parseRow text (reader.line + (i + 1)) = .error e ∧ reader.Yields .plain (.error e) (i + 1) := by
  classical
  obtain ⟨i, ⟨text, early, present, malformed⟩, least⟩ := Nat.findX bad
  obtain ⟨e, refused, yields⟩ := outcome.malformed i text early present malformed
    fun j earlier before there fault => least j before ⟨earlier, by omega, there, fault⟩
  exact ⟨i, text, e, early, present, malformed, refused, yields⟩

section Outcome

variable {reader : Reader} {lines : List String}

private theorem length_take_pending (readable : reader.pending.map Piece.text = lines.map .ok)
    {n : Nat} (h : n ≤ lines.length) : (reader.pending.take n).length = n := by
  rw [List.length_take, length_pending readable]
  exact Nat.min_eq_left h

private theorem exists_holds_take (readable : reader.pending.map Piece.text = lines.map .ok)
    {n : Nat} (visible : n ≤ linesBeforeBlank lines)
    (wellFormed : ∀ i text, i < n → lines[i]? = some text → ¬ Malformed text) :
    ∃ rows, List.Forall₂ Denotes (lines.take n) rows ∧
      List.Forall₂ Piece.Holds (reader.pending.take n) rows := by
  have denoted : ∃ rows, List.Forall₂ Denotes (lines.take n) rows := by
    refine exists_forall₂_denotes ?_
    intro text member
    obtain ⟨i, bound, present⟩ := getElem?_of_mem_take member
    exact wellFormed i text bound present
  obtain ⟨rows, denoted⟩ := denoted
  refine ⟨rows, denoted, Piece.holds_of_denotes ?_ ?_ denoted⟩
  · rw [List.map_take, readable, List.map_take]
  · intro text member
    obtain ⟨i, bound, present⟩ := getElem?_of_mem_take member
    exact not_blank_of_lt (by omega) present

private theorem yields_malformed (readable : reader.pending.map Piece.text = lines.map .ok)
    {i : Nat} {text : String} (early : i < linesBeforeBlank lines)
    (present : lines[i]? = some text) (malformed : Malformed text)
    (first : ∀ j earlier, j < i → lines[j]? = some earlier → ¬ Malformed earlier) :
    ∃ e, parseRow text (reader.line + (i + 1)) = .error e ∧
      reader.Yields .plain (.error e) (i + 1) := by
  obtain ⟨e, refused⟩ := exists_error_of_malformed malformed (reader.line + (i + 1))
  obtain ⟨rows, -, held⟩ := exists_holds_take readable (Nat.le_of_lt early) first
  obtain ⟨piece, answer, split⟩ := Piece.exists_of_readable readable present
  have size : (reader.pending.take i).length = i := by
    apply length_take_pending readable
    have bound := linesBeforeBlank_le lines
    omega
  have taken := takeRows_malformed held answer (not_blank_of_lt early present)
    (by rw [size]; exact refused) (reader.pending.drop (i + 1))
  rw [← split, size] at taken
  refine ⟨e, refused, ?_⟩
  simp [Yields, read, readPlain, taken]

private theorem takeRows_eq_ok (readable : reader.pending.map Piece.text = lines.map .ok)
    {rows : List (List Cell)}
    (held : List.Forall₂ Piece.Holds (reader.pending.take (linesBeforeBlank lines)) rows) :
    takeRows reader.line reader.pending =
      (.ok rows, ⟨reader.pending.drop (min (linesBeforeBlank lines + 1) lines.length),
        reader.line + min (linesBeforeBlank lines + 1) lines.length⟩) := by
  have bound := linesBeforeBlank_le lines
  have total := length_pending readable
  have size := length_take_pending readable bound
  by_cases found : linesBeforeBlank lines < lines.length
  · obtain ⟨piece, answer, split⟩ :=
      Piece.exists_of_readable readable (List.getElem?_eq_getElem found)
    have blank : Text.allBlank lines[linesBeforeBlank lines] = true :=
      List.findIdx_getElem (w := found)
    have taken := takeRows_blank held answer blank reader.line
      (reader.pending.drop (linesBeforeBlank lines + 1))
    rw [← split, size] at taken
    rw [taken, Nat.min_eq_left found]
  · -- No line is blank, so the rows reach to the end and there is no blank line to take.
    have all : linesBeforeBlank lines = lines.length := by omega
    have taken := takeRows_end held reader.line
    rw [all, ← total, List.take_length] at taken
    rw [all, ← total, taken, Nat.min_eq_right (Nat.le_succ _), List.drop_length]

private theorem yields_assemble (readable : reader.pending.map Piece.text = lines.map .ok)
    {rows : List (List Cell)} {result : Except ReadError Grid}
    (held : List.Forall₂ Piece.Holds (reader.pending.take (linesBeforeBlank lines)) rows)
    (assembled : ∀ after : Reader,
      after.line = reader.line + min (linesBeforeBlank lines + 1) lines.length →
        assemble (reader.line + 1) rows after = (result, after)) :
    reader.Yields .plain result (min (linesBeforeBlank lines + 1) lines.length) := by
  simp only [Yields, read, readPlain, takeRows_eq_ok readable held]
  exact assembled _ rfl

private theorem yields_empty (readable : reader.pending.map Piece.text = lines.map .ok)
    (blank : linesBeforeBlank lines = 0) :
    reader.Yields .plain (.error (.grid (reader.line + min 1 lines.length) .empty))
      (min 1 lines.length) := by
  have held : List.Forall₂ Piece.Holds (reader.pending.take (linesBeforeBlank lines)) [] := by
    rw [blank]
    exact .nil
  have none : Grid.ofRows [] = .error .empty := Grid.ofRows_eq_empty rfl
  have yielded : reader.Yields .plain
      (.error (.grid (reader.line + min (linesBeforeBlank lines + 1) lines.length) .empty))
      (min (linesBeforeBlank lines + 1) lines.length) := by
    refine yields_assemble readable held ?_
    intro after counted
    simp only [assemble, none, counted]
  rw [blank] at yielded
  exact yielded

private theorem length_headD_pos {rows : List (List Cell)} (positive : 0 < linesBeforeBlank lines)
    (denoted : List.Forall₂ Denotes (lines.take (linesBeforeBlank lines)) rows) :
    0 < (rows.headD []).length := by
  have bound := linesBeforeBlank_le lines
  cases rows with
  | nil =>
    have none := denoted.length_eq
    simp only [List.length_take, List.length_nil] at none
    omega
  | cons row rows =>
    have first := denoted.get (i := 0) (by rw [List.length_take]; omega) (by simp)
    simp only [List.get_eq_getElem, List.getElem_take, List.getElem_cons_zero] at first
    exact length_pos_of_denotes first (not_blank_of_lt positive (List.getElem?_eq_getElem _))

theorem plainOutcome_of_readable (readable : reader.pending.map Piece.text = lines.map .ok) :
    PlainOutcome reader lines where
  malformed _ _ := yields_malformed readable
  noLine none := by
    have yielded := yields_empty readable (by rw [none]; rfl)
    simpa [none] using yielded
  blankLine some blank := by
    have yielded := yields_empty readable blank
    have positive : 1 ≤ lines.length := List.length_pos_iff.2 some
    rwa [Nat.min_eq_left positive] at yielded
  rows positive wellFormed := by
    obtain ⟨rows, denoted, held⟩ := exists_holds_take readable (Nat.le_refl _) wellFormed
    have nonempty := length_headD_pos positive denoted
    refine ⟨rows, denoted, ?_, ?_⟩
    · intro j row present different first
      refine yields_assemble readable held ?_
      intro after _
      simp only [assemble, Grid.ofRows_eq_ragged nonempty present different first]
    · intro rectangular
      obtain ⟨g, accepted, shown⟩ := Grid.exists_ofRows_eq_ok nonempty rectangular
      refine ⟨g, shown, yields_assemble readable held ?_⟩
      intro after _
      simp only [assemble, accepted]

end Outcome

/-- Reading a plain grid from the start of any text, whatever was counted before. -/
theorem readPlain_outcome (text : String) (line : Nat) :
    PlainOutcome ⟨pieces ((Text.bytes text).map .byte), line⟩ (Text.lines text) :=
  plainOutcome_of_readable (map_text_pieces_bytes text)

end GameOfLife.Reader

import GameOfLife.Proofs.Grid.OfRows
import GameOfLife.Proofs.Input.Header
import GameOfLife.Proofs.Input.Pieces

/-!
Reading a sized grid: blank lines in front of the header are skipped, the header is taken, and then
rows of the announced width until there are as many as it announces. How this goes for the lines in
front of a reader is said by a relation that gives one result to every list of lines.
-/

set_option autoImplicit false
set_option relaxedAutoImplicit false

namespace GameOfLife.Reader

private theorem takeHeader_append {blanks : List Piece} (h : ∀ piece ∈ blanks, piece.Blank) (line : Nat)
    (rest : List Piece) :
    takeHeader line (blanks ++ rest) = takeHeader (line + blanks.length) rest := by
  induction blanks generalizing line with
  | nil => rfl
  | cons piece blanks ih =>
    simp only [List.mem_cons, forall_eq_or_imp] at h
    obtain ⟨text, readable, blank⟩ := h.1
    have next : line + 1 + blanks.length = line + (blanks.length + 1) := by omega
    simp only [List.cons_append, takeHeader, readable, blank, if_true, ih h.2 (line + 1), next,
      List.length_cons]

private theorem takeHeader_cons {piece : Piece} {text : String} (readable : piece.text = .ok text)
    (visible : Text.allBlank text = false) (line : Nat) (rest : List Piece) :
    takeHeader line (piece :: rest) = (.ok text, ⟨rest, line + 1⟩) := by
  simp [takeHeader, readable, visible]

private theorem takeBody_append {height width : Nat} {body : List Piece} {rows : List (List Cell)}
    (h : List.Forall₂ Piece.Holds body rows) (lengths : ∀ row ∈ rows, row.length = width)
    {found : Nat} (room : found + body.length ≤ height) (line : Nat) (rest : List Piece) :
    takeBody height width found line (body ++ rest) =
      ((takeBody height width (found + body.length) (line + body.length) rest).1.map (rows ++ ·),
        (takeBody height width (found + body.length) (line + body.length) rest).2) := by
  induction h generalizing found line with
  | nil =>
    simp only [List.nil_append, List.length_nil, Nat.add_zero]
    generalize takeBody height width found line rest = answer
    obtain ⟨result, after⟩ := answer
    cases result <;> rfl
  | @cons piece row body rows holds _ ih =>
    obtain ⟨text, readable, visible, denotes⟩ := holds
    simp only [List.mem_cons, forall_eq_or_imp] at lengths
    simp only [List.length_cons] at room
    have unfilled : found < height := by omega
    have counted : found + 1 + body.length = found + (body.length + 1) := by omega
    have next : line + 1 + body.length = line + (body.length + 1) := by omega
    have others := ih lengths.2 (by omega : found + 1 + body.length ≤ height) (line + 1)
    rw [counted, next] at others
    simp only [List.cons_append, takeBody, unfilled, if_true, readable, visible, Bool.false_eq_true,
      if_false, denotes (line + 1), lengths.1, others, List.length_cons]
    cases (takeBody height width (found + (body.length + 1)) (line + (body.length + 1)) rest).1 <;>
      rfl

private theorem takeBody_full {height width found : Nat} (full : height ≤ found) (line : Nat)
    (rest : List Piece) :
    takeBody height width found line rest = (.ok [], ⟨rest, line⟩) := by
  cases rest <;> simp [takeBody, Nat.not_lt.2 full]

theorem readSized_of_held {blanks body rest : List Piece} {header : Piece} {text : String}
    {g : Grid} (skipped : ∀ piece ∈ blanks, piece.Blank) (readable : header.text = .ok text)
    (visible : Text.allBlank text = false) (announced : headerSize? text = some (g.height, g.width))
    (held : List.Forall₂ Piece.Holds body g.rows) (line : Nat) :
    readSized ⟨blanks ++ header :: (body ++ rest), line⟩ =
      (.ok g, ⟨rest, line + (blanks.length + 1 + body.length)⟩) := by
  have size : body.length = g.height := held.length_eq.trans g.length_rows
  -- The header passes the test for emptiness because no grid is empty.
  have positive : ¬ (g.height = 0 ∨ g.width = 0) := by
    have height := g.height_pos
    have width := g.width_pos
    omega
  have rows : takeBody g.height g.width 0 (line + blanks.length + 1) (body ++ rest) =
      (.ok g.rows, ⟨rest, line + blanks.length + 1 + body.length⟩) := by
    rw [takeBody_append held (fun _ => Grid.length_of_mem_rows) (by omega),
      takeBody_full (by omega)]
    simp [Except.map]
  have total : line + blanks.length + 1 + body.length =
      line + (blanks.length + 1 + body.length) := by omega
  simp only [readSized, takeHeader_append skipped, takeHeader_cons readable visible, announced,
    positive, if_false, rows, assemble, Grid.ofRows_rows, total]

/-- A line that can stand in a body: it is not blank and denotes a row of the announced width. -/
def Fits (width : Nat) (text : String) (row : List Cell) : Prop :=
  Text.allBlank text = false ∧ Denotes text row ∧ row.length = width

/-- What becomes of the lines behind a header that announces `height` rows of `width` cells: the rows,
or the first thing that is wrong with a line, and how many lines are taken. The header is line number
`line`, and `above` are the lines that are in order. -/
inductive BodyOutcome (height width line : Nat) :
    List String → Except ReadError (List (List Cell)) → Nat → Prop
  | missing {above : List String} {rows : List (List Cell)} :
      List.Forall₂ (Fits width) above rows → above.length < height →
      BodyOutcome height width line above (.error (.truncated height above.length)) above.length
  | blank {above below : List String} {text : String} {rows : List (List Cell)} :
      List.Forall₂ (Fits width) above rows → above.length < height → Text.allBlank text = true →
      BodyOutcome height width line (above ++ text :: below)
        (.error (.truncated height above.length)) (above.length + 1)
  | malformed {above below : List String} {text : String} {rows : List (List Cell)} {e : ReadError} :
      List.Forall₂ (Fits width) above rows → above.length < height → Text.allBlank text = false →
      Malformed text → parseRow text (line + (above.length + 1)) = .error e →
      BodyOutcome height width line (above ++ text :: below) (.error e) (above.length + 1)
  | ragged {above below : List String} {text : String} {rows : List (List Cell)} {row : List Cell} :
      List.Forall₂ (Fits width) above rows → above.length < height → Text.allBlank text = false →
      Denotes text row → row.length ≠ width →
      BodyOutcome height width line (above ++ text :: below)
        (.error (.grid (line + (above.length + 1)) (.ragged above.length width row.length)))
        (above.length + 1)
  | complete {above below : List String} {rows : List (List Cell)} :
      List.Forall₂ (Fits width) above rows → above.length = height →
      BodyOutcome height width line (above ++ below) (.ok rows) height

/-- What reading a sized grid makes of the lines in front of a reader that has read `line` lines: the
result, and how many lines are taken. -/
inductive SizedOutcome (line : Nat) : List String → Except ReadError Grid → Nat → Prop
  | noHeader {blanks : List String} : (∀ text ∈ blanks, Text.allBlank text = true) →
      SizedOutcome line blanks (.error (.grid (line + blanks.length) .empty)) blanks.length
  | badHeader {blanks body : List String} {header : String} :
      (∀ text ∈ blanks, Text.allBlank text = true) → Text.allBlank header = false →
      (∀ height width, ¬ Announces header height width) →
      SizedOutcome line (blanks ++ header :: body)
        (.error (.badHeader (line + (blanks.length + 1)) (Text.trim header))) (blanks.length + 1)
  | noCell {blanks body : List String} {header : String} {height width : Nat} :
      (∀ text ∈ blanks, Text.allBlank text = true) → Text.allBlank header = false →
      Announces header height width → height = 0 ∨ width = 0 →
      SizedOutcome line (blanks ++ header :: body)
        (.error (.grid (line + (blanks.length + 1)) .empty)) (blanks.length + 1)
  | badBody {blanks body : List String} {header : String} {height width taken : Nat}
      {e : ReadError} :
      (∀ text ∈ blanks, Text.allBlank text = true) → Text.allBlank header = false →
      Announces header height width → 0 < height → 0 < width →
      BodyOutcome height width (line + (blanks.length + 1)) body (.error e) taken →
      SizedOutcome line (blanks ++ header :: body) (.error e) (blanks.length + 1 + taken)
  | complete {blanks body : List String} {header : String} {height width taken : Nat} {g : Grid} :
      (∀ text ∈ blanks, Text.allBlank text = true) → Text.allBlank header = false →
      Announces header height width → 0 < height → 0 < width →
      BodyOutcome height width (line + (blanks.length + 1)) body (.ok g.rows) taken →
      SizedOutcome line (blanks ++ header :: body) (.ok g) (blanks.length + 1 + taken)

section Body

variable {height width line : Nat} {body : List Piece} {above : List String}
  {rows : List (List Cell)}

theorem length_of_fits (fits : List.Forall₂ (Fits width) above rows) :
    ∀ row ∈ rows, row.length = width := by
  induction fits with
  | nil => simp
  | cons fits _ ih =>
    simp only [List.mem_cons, forall_eq_or_imp]
    exact ⟨fits.2.2, ih⟩

private theorem holds_of_fits (readable : body.map Piece.text = above.map .ok)
    (fits : List.Forall₂ (Fits width) above rows) : List.Forall₂ Piece.Holds body rows := by
  refine Piece.holds_of_denotes readable ?_ (fits.imp fun _ _ h => h.2.1)
  intro text member
  obtain ⟨i, bound, rfl⟩ := List.mem_iff_getElem.1 member
  exact (fits.get bound (by rw [← fits.length_eq]; exact bound)).1

private theorem takeBody_fits (readable : body.map Piece.text = above.map .ok)
    (fits : List.Forall₂ (Fits width) above rows) (room : above.length ≤ height)
    (rest : List Piece) :
    takeBody height width 0 line (body ++ rest) =
      ((takeBody height width above.length (line + above.length) rest).1.map (rows ++ ·),
        (takeBody height width above.length (line + above.length) rest).2) := by
  have size : body.length = above.length := by simpa using congrArg List.length readable
  have taken := takeBody_append (holds_of_fits readable fits) (length_of_fits fits)
    (by omega : 0 + body.length ≤ height) line rest
  rwa [Nat.zero_add, size] at taken

private theorem takeBody_stops {below : List String} {text : String} {pending : List Piece} {e : ReadError}
    (readable : pending.map Piece.text = (above ++ text :: below).map .ok)
    (fits : List.Forall₂ (Fits width) above rows) (room : above.length < height)
    (stops : ∀ piece rest, piece.text = .ok text →
      takeBody height width above.length (line + above.length) (piece :: rest) =
        (.error e, ⟨rest, line + (above.length + 1)⟩)) :
    takeBody height width 0 line pending =
      (.error e, ⟨pending.drop (above.length + 1), line + (above.length + 1)⟩) := by
  rw [List.map_append, List.map_cons] at readable
  obtain ⟨front, tail, rfl, answers, others⟩ := List.map_eq_append_iff.1 readable
  obtain ⟨piece, tail, rfl, answer, -⟩ := List.map_eq_cons_iff.1 others
  have size : front.length = above.length := by simpa using congrArg List.length answers
  have left : (front ++ piece :: tail).drop (above.length + 1) = tail := by
    rw [← size, List.drop_append]
    simp
  rw [takeBody_fits answers fits (Nat.le_of_lt room), stops piece tail answer, left]
  rfl

private theorem takeBody_of_outcome {lines : List String} {result : Except ReadError (List (List Cell))}
    {taken : Nat} (outcome : BodyOutcome height width line lines result taken)
    {pending : List Piece} (readable : pending.map Piece.text = lines.map .ok) :
    takeBody height width 0 line pending = (result, ⟨pending.drop taken, line + taken⟩) := by
  cases outcome with
  | missing fits room =>
    have size : pending.length = lines.length := by simpa using congrArg List.length readable
    have all : takeBody height width 0 line (pending ++ []) = _ :=
      takeBody_fits readable fits (Nat.le_of_lt room) []
    rw [List.append_nil] at all
    rw [all, ← size, List.drop_length, size]
    simp [takeBody, room, Except.map]
  | blank fits room blank =>
    refine takeBody_stops readable fits room ?_
    intro piece rest answer
    simp [takeBody, room, answer, blank, Nat.add_assoc]
  | malformed fits room visible malformed refused =>
    refine takeBody_stops readable fits room ?_
    intro piece rest answer
    rw [← Nat.add_assoc] at refused ⊢
    simp [takeBody, room, answer, visible, refused]
  | ragged fits room visible denotes different =>
    refine takeBody_stops readable fits room ?_
    intro piece rest answer
    rw [← Nat.add_assoc]
    simp [takeBody, room, answer, visible, denotes _, different]
  | complete fits full =>
    rw [List.map_append] at readable
    obtain ⟨front, rest, rfl, answers, -⟩ := List.map_eq_append_iff.1 readable
    have size : front.length = height := by
      rw [← full]
      simpa using congrArg List.length answers
    rw [takeBody_fits answers fits (Nat.le_of_eq full), takeBody_full (Nat.le_of_eq full.symm), full,
      ← size, List.drop_left]
    simp [Except.map]

private theorem taken_le_of_bodyOutcome {lines : List String}
    {result : Except ReadError (List (List Cell))} {taken : Nat}
    (outcome : BodyOutcome height width line lines result taken) : taken ≤ lines.length := by
  cases outcome with
  | missing => exact Nat.le_refl _
  | blank | malformed | ragged => simp
  | complete fits full => simp [full]

private theorem exists_bodyOutcome_append (fits : List.Forall₂ (Fits width) above rows)
    (room : above.length ≤ height) (lines : List String) :
    ∃ result taken, BodyOutcome height width line (above ++ lines) result taken := by
  induction lines generalizing above rows with
  | nil =>
    rcases Nat.lt_or_eq_of_le room with room | full
    · rw [List.append_nil]
      exact ⟨_, _, .missing fits room⟩
    · exact ⟨_, _, .complete fits full⟩
  | cons text lines ih =>
    rcases Nat.lt_or_eq_of_le room with room | full
    · cases blank : Text.allBlank text with
      | true => exact ⟨_, _, .blank fits room blank⟩
      | false =>
        by_cases malformed : Malformed text
        · obtain ⟨e, refused⟩ := exists_error_of_malformed malformed (line + (above.length + 1))
          exact ⟨_, _, .malformed fits room blank malformed refused⟩
        · obtain ⟨row, denotes⟩ := exists_denotes malformed
          by_cases same : row.length = width
          · -- One line more is in order.
            have more : List.Forall₂ (Fits width) (above ++ [text]) (rows ++ [row]) :=
              List.rel_append fits (.cons ⟨blank, denotes, same⟩ .nil)
            have next := ih more (by rw [List.length_append, List.length_singleton]; omega)
            rwa [List.append_assoc, List.singleton_append] at next
          · exact ⟨_, _, .ragged fits room blank denotes same⟩
    · exact ⟨_, _, .complete fits full⟩

theorem exists_bodyOutcome (height width line : Nat) (lines : List String) :
    ∃ result taken, BodyOutcome height width line lines result taken :=
  exists_bodyOutcome_append .nil (Nat.zero_le _) lines

end Body

section Header

variable {line : Nat} {blanks body : List String} {header : String} {pending : List Piece}

private theorem blank_of_readable {skipped : List Piece} (readable : skipped.map Piece.text = blanks.map .ok)
    (blank : ∀ text ∈ blanks, Text.allBlank text = true) : ∀ piece ∈ skipped, piece.Blank := by
  intro piece member
  have answer : piece.text ∈ skipped.map Piece.text := List.mem_map_of_mem member
  rw [readable] at answer
  obtain ⟨text, present, same⟩ := List.mem_map.1 answer
  exact ⟨text, same.symm, blank text present⟩

private theorem takeHeader_none (readable : pending.map Piece.text = blanks.map .ok)
    (blank : ∀ text ∈ blanks, Text.allBlank text = true) :
    takeHeader line pending =
      (.error (.grid (line + blanks.length) .empty), ⟨[], line + blanks.length⟩) := by
  have size : pending.length = blanks.length := by simpa using congrArg List.length readable
  have skipped := takeHeader_append (blank_of_readable readable blank) line []
  rw [List.append_nil, size] at skipped
  exact skipped

private theorem takeHeader_some (readable : pending.map Piece.text = (blanks ++ header :: body).map .ok)
    (blank : ∀ text ∈ blanks, Text.allBlank text = true) (visible : Text.allBlank header = false) :
    takeHeader line pending =
      (.ok header, ⟨pending.drop (blanks.length + 1), line + (blanks.length + 1)⟩) := by
  rw [List.map_append, List.map_cons] at readable
  obtain ⟨skipped, tail, rfl, answers, others⟩ := List.map_eq_append_iff.1 readable
  obtain ⟨piece, tail, rfl, answer, -⟩ := List.map_eq_cons_iff.1 others
  have size : skipped.length = blanks.length := by simpa using congrArg List.length answers
  rw [takeHeader_append (blank_of_readable answers blank), takeHeader_cons answer visible, ← size,
    List.drop_append]
  simp [Nat.add_assoc]

private theorem readable_behind_header
    (readable : pending.map Piece.text = (blanks ++ header :: body).map .ok) :
    (pending.drop (blanks.length + 1)).map Piece.text = body.map .ok := by
  rw [List.map_drop, readable, ← List.map_drop, List.drop_append]
  simp

end Header

section Outcome

variable {reader : Reader} {lines : List String}

theorem yields_of_outcome (readable : reader.pending.map Piece.text = lines.map .ok)
    {result : Except ReadError Grid} {taken : Nat}
    (outcome : SizedOutcome reader.line lines result taken) : reader.Yields .sized result taken := by
  simp only [Yields, read, readSized]
  cases outcome with
  | noHeader blank =>
    have size := length_pending readable
    rw [takeHeader_none readable blank, ← size, List.drop_length]
  | badHeader blank visible unannounced =>
    simp only [takeHeader_some readable blank visible, headerSize?_eq_none_iff.2 unannounced]
  | noCell blank visible announced none =>
    simp only [takeHeader_some readable blank visible, headerSize?_eq_some_iff.2 announced, none,
      if_true]
  | badBody blank visible announced tall wide outcome =>
    have positive : ¬ (_ = 0 ∨ _ = 0) := not_or.2 ⟨Nat.ne_of_gt tall, Nat.ne_of_gt wide⟩
    simp only [takeHeader_some readable blank visible, headerSize?_eq_some_iff.2 announced, positive,
      if_false, takeBody_of_outcome outcome (readable_behind_header readable), List.drop_drop,
      Nat.add_assoc]
  | complete blank visible announced tall wide outcome =>
    have positive : ¬ (_ = 0 ∨ _ = 0) := not_or.2 ⟨Nat.ne_of_gt tall, Nat.ne_of_gt wide⟩
    simp only [takeHeader_some readable blank visible, headerSize?_eq_some_iff.2 announced, positive,
      if_false, takeBody_of_outcome outcome (readable_behind_header readable), assemble,
      Grid.ofRows_rows, List.drop_drop, Nat.add_assoc]

theorem exists_rows_of_complete {height width line : Nat} {body : List String}
    {rows : List (List Cell)} {taken : Nat} (tall : 0 < height) (wide : 0 < width)
    (outcome : BodyOutcome height width line body (.ok rows) taken) : ∃ g : Grid, g.rows = rows := by
  cases outcome with
  | @complete above below rows fits full =>
    have lengths := length_of_fits fits
    have count : rows.length = height := by rw [← fits.length_eq, full]
    obtain ⟨top, others, rfl⟩ := List.exists_cons_of_length_pos (by omega : 0 < rows.length)
    have first : ((top :: others).headD []).length = width := lengths top List.mem_cons_self
    obtain ⟨g, -, shown⟩ := Grid.exists_ofRows_eq_ok (by rw [first]; exact wide)
      (fun row member => by rw [first]; exact lengths row member)
    exact ⟨g, shown⟩

theorem exists_sizedOutcome (line : Nat) (lines : List String) :
    ∃ result taken, SizedOutcome line lines result taken := by
  have blank : ∀ text ∈ lines.takeWhile Text.allBlank, Text.allBlank text = true :=
    List.all_eq_true.1 List.all_takeWhile
  have split := List.takeWhile_append_dropWhile (p := Text.allBlank) (l := lines)
  cases rest : lines.dropWhile Text.allBlank with
  | nil =>
    rw [rest, List.append_nil] at split
    rw [split] at blank
    exact ⟨_, _, .noHeader blank⟩
  | cons header body =>
    have visible : Text.allBlank header = false := by
      have first := List.head?_dropWhile_not Text.allBlank lines
      simpa [rest] using first
    rw [rest] at split
    rw [← split]
    cases announced : headerSize? header with
    | none => exact ⟨_, _, .badHeader blank visible (headerSize?_eq_none_iff.1 announced)⟩
    | some size =>
      obtain ⟨height, width⟩ := size
      have announced := headerSize?_eq_some_iff.1 announced
      by_cases none : height = 0 ∨ width = 0
      · exact ⟨_, _, .noCell blank visible announced none⟩
      · obtain ⟨tall, wide⟩ := not_or.1 none
        have tall := Nat.pos_of_ne_zero tall
        have wide := Nat.pos_of_ne_zero wide
        obtain ⟨result, taken, outcome⟩ := exists_bodyOutcome height width
          (line + ((lines.takeWhile Text.allBlank).length + 1)) body
        cases result with
        | error e => exact ⟨_, _, .badBody blank visible announced tall wide outcome⟩
        | ok rows =>
          obtain ⟨g, rfl⟩ := exists_rows_of_complete tall wide outcome
          exact ⟨_, _, .complete blank visible announced tall wide outcome⟩

theorem taken_le_of_outcome {line : Nat} {result : Except ReadError Grid} {taken : Nat}
    (outcome : SizedOutcome line lines result taken) : taken ≤ lines.length := by
  cases outcome with
  | noHeader => exact Nat.le_refl _
  | badHeader | noCell => simp
  | badBody _ _ _ _ _ outcome | complete _ _ _ _ _ outcome =>
    have bound := taken_le_of_bodyOutcome outcome
    simp only [List.length_append, List.length_cons]
    omega

private theorem yields_sized_iff (readable : reader.pending.map Piece.text = lines.map .ok)
    {result : Except ReadError Grid} {taken : Nat} :
    reader.Yields .sized result taken ↔ SizedOutcome reader.line lines result taken := by
  constructor
  · intro yields
    obtain ⟨result', taken', outcome⟩ := exists_sizedOutcome reader.line lines
    have yields' := yields_of_outcome readable outcome
    rw [Yields, yields, Prod.mk.injEq, Reader.mk.injEq] at yields'
    have same : taken = taken' := Nat.add_left_cancel yields'.2.2
    rw [yields'.1, same]
    exact outcome
  · exact yields_of_outcome readable

end Outcome

/-- Reading a sized grid from the start of any text, whatever was counted before, gives the result that
its lines call for and takes as many of them. -/
theorem readSized_outcome (text : String) (line : Nat) :
    let reader : Reader := ⟨pieces ((Text.bytes text).map .byte), line⟩
    (∃ result taken, reader.Yields .sized result taken) ∧
      ∀ result taken, reader.Yields .sized result taken ↔
        SizedOutcome line (Text.lines text) result taken := by
  intro reader
  have readable : reader.pending.map Piece.text = (Text.lines text).map .ok :=
    map_text_pieces_bytes text
  obtain ⟨result, taken, outcome⟩ := exists_sizedOutcome line (Text.lines text)
  exact ⟨⟨result, taken, yields_of_outcome readable outcome⟩, fun _ _ => yields_sized_iff readable⟩

end GameOfLife.Reader

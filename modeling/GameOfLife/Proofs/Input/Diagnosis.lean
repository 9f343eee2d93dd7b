import GameOfLife.Proofs.Input.PlainGrid
import GameOfLife.Proofs.Input.SizedGrid

/-!
What an error says about the input. A reader over the lines of a text stays in step with them whatever
its reads give: behind the first lines, as many as it has counted, everything is still to be read. So
the line number in an error is that of a line of the whole text, and the error tells what is wrong
there.
-/

set_option autoImplicit false
set_option relaxedAutoImplicit false

namespace GameOfLife

def LineAt (lines : List String) (number : Nat) (text : String) : Prop :=
  ∃ i, number = i + 1 ∧ lines[i]? = some text

def LineOf (lines : List String) (number count : Nat) : Prop :=
  ∃ text, LineAt lines number text ∧ (Text.words text).length = count

def CellWord (word : String) : Prop :=
  ∃ cell : Cell, Text.Literal word cell.toNat

def BehindCells (text word : String) : Prop :=
  ∃ before after, Text.words text = before ++ word :: after ∧ ∀ earlier ∈ before, CellWord earlier

/-- What an error says about the lines of a text, if it comes from a read that began behind the first
`begun` of them. -/
def ReadError.Located (lines : List String) (layout : Layout) (begun : Nat) : ReadError → Prop
  | .io _ => False
  | .invalidToken number token =>
    ∃ text, LineAt lines number text ∧ BehindCells text token ∧ ∀ v, ¬ Text.Literal token v
  | .notBinary number value =>
    ∃ text token, LineAt lines number text ∧ BehindCells text token ∧ Text.Literal token value ∧
      value ≠ 0 ∧ value ≠ 1
  | .grid number (.ragged row expected found) =>
    found ≠ expected ∧ LineOf lines number found ∧
      ∃ top, number = top + row ∧ (∀ i < row, LineOf lines (top + i) expected) ∧
        match layout with
        | .plain => LineOf lines top expected
        | .sized => ∃ above header height, top = above + 1 ∧ LineAt lines above header ∧
            Announces header height expected
  | .grid number .empty =>
    match layout with
    | .plain =>
      (number = begun + 1 ∧ ∃ text, LineAt lines number text ∧ Text.allBlank text = true) ∨
        number = lines.length ∧ begun = lines.length
    | .sized =>
      (∃ header height width, LineAt lines number header ∧ Announces header height width ∧
        (height = 0 ∨ width = 0)) ∨
        number = lines.length ∧ ∀ text ∈ lines.drop begun, Text.allBlank text = true
  | .badHeader number text =>
    ∃ header, LineAt lines number header ∧ text = Text.trim header ∧
      ∀ height width, ¬ Announces header height width
  | .truncated expected found =>
    found < expected ∧ ∃ number header width, LineAt lines number header ∧
      Announces header expected width ∧ (∀ i < found, LineOf lines (number + 1 + i) width) ∧
      (number + found = lines.length ∨
        ∃ text, LineAt lines (number + 1 + found) text ∧ Text.allBlank text = true)

private theorem lineAt_of_getElem?_drop {lines : List String} {begun i : Nat} {text : String}
    (h : (lines.drop begun)[i]? = some text) : LineAt lines (begun + (i + 1)) text := by
  rw [List.getElem?_drop] at h
  exact ⟨begun + i, rfl, h⟩

private theorem lineAt_of_drop_eq {lines front back : List String} {begun : Nat} {text : String}
    (h : lines.drop begun = front ++ text :: back) :
    LineAt lines (begun + (front.length + 1)) text := by
  apply lineAt_of_getElem?_drop
  simp [h]

private theorem drop_of_drop_eq {lines front back : List String} {begun : Nat}
    (h : lines.drop begun = front ++ back) : lines.drop (begun + front.length) = back := by
  rw [← List.drop_drop, h, List.drop_left]

private theorem cellWord_of_ofWord? {word : String} {cell : Cell} (h : Cell.ofWord? word = some cell) :
    CellWord word := by
  obtain ⟨v, literal, value⟩ := Option.bind_eq_some_iff.1 h
  refine ⟨cell, ?_⟩
  rw [← Cell.ofInt?_eq_some_iff.1 value]
  exact Text.integer?_eq_some_iff.1 literal

section Located

variable {lines : List String} {begun : Nat}

private theorem located_of_parseRow_eq_error {layout : Layout} {number : Nat} {text : String} {e : ReadError}
    (present : LineAt lines number text) (h : parseRow text number = .error e) :
    e.Located lines layout begun := by
  obtain ⟨before, word, after, split, cells, refused⟩ := exists_of_parseRow_eq_error h
  have behind : BehindCells text word := by
    refine ⟨before, after, split, ?_⟩
    intro earlier member
    obtain ⟨cell, value⟩ := cells earlier member
    exact cellWord_of_ofWord? value
  unfold parseCell at refused
  cases literal : Text.integer? word with
  | none =>
    simp only [literal, Except.error.injEq] at refused
    subst refused
    exact ⟨text, present, behind, Text.integer?_eq_none_iff.1 literal⟩
  | some v =>
    cases value : Cell.ofInt? v with
    | none =>
      simp only [literal, value, Except.error.injEq] at refused
      subst refused
      exact ⟨text, word, present, behind, Text.integer?_eq_some_iff.1 literal,
        Cell.ofInt?_eq_none_iff.1 value⟩
    | some cell => simp [literal, value] at refused

private theorem lineOf_of_denotes {i : Nat} {text : String} {row : List Cell}
    (present : (lines.drop begun)[i]? = some text) (denotes : Denotes text row) :
    LineOf lines (begun + 1 + i) row.length := by
  have number : begun + 1 + i = begun + (i + 1) := by omega
  rw [number]
  exact ⟨text, lineAt_of_getElem?_drop present, length_words_of_denotes denotes⟩

private theorem lineOf_of_rows {n i : Nat} {rows : List (List Cell)} {row : List Cell}
    (denoted : List.Forall₂ Denotes ((lines.drop begun).take n) rows) (present : rows[i]? = some row) :
    LineOf lines (begun + 1 + i) row.length := by
  obtain ⟨place, rfl⟩ := List.getElem?_eq_some_iff.1 present
  have taken : i < ((lines.drop begun).take n).length := by rwa [denoted.length_eq]
  have denotes := denoted.get taken place
  simp only [List.get_eq_getElem, List.getElem_take] at denotes
  exact lineOf_of_denotes (List.getElem?_eq_getElem _) denotes

private theorem LineAt.le_length {number : Nat} {text : String} (h : LineAt lines number text) :
    number ≤ lines.length := by
  obtain ⟨i, rfl, present⟩ := h
  exact (List.getElem?_eq_some_iff.1 present).1

end Located

namespace Reader

section Sized

variable {lines body : List String} {begun number height width taken : Nat} {header : String}
  {e : ReadError}

private theorem lineOf_of_fits {above below : List String} {rows : List (List Cell)}
    (behind : lines.drop number = above ++ below) (fits : List.Forall₂ (Fits width) above rows) :
    ∀ i < above.length, LineOf lines (number + 1 + i) width := by
  intro i hi
  have place : i < rows.length := by rwa [← fits.length_eq]
  have denoted : List.Forall₂ Denotes ((lines.drop number).take above.length) rows := by
    rw [behind, List.take_left]
    exact fits.imp fun _ _ h => h.2.1
  rw [← length_of_fits fits _ (List.getElem_mem place)]
  exact lineOf_of_rows denoted (List.getElem?_eq_getElem place)

private theorem located_of_bodyOutcome (present : LineAt lines number header)
    (announced : Announces header height width) (behind : lines.drop number = body)
    (outcome : BodyOutcome height width number body (.error e) taken) :
    e.Located lines .sized begun := by
  have next : ∀ n, number + (n + 1) = number + 1 + n := fun n => by omega
  cases outcome with
  | missing fits room =>
    rw [← List.append_nil body] at behind
    refine ⟨room, number, header, width, present, announced, lineOf_of_fits behind fits, .inl ?_⟩
    have rest := congrArg List.length behind
    simp only [List.append_nil, List.length_drop] at rest
    have bound := present.le_length
    omega
  | blank fits room blank =>
    refine ⟨room, number, header, width, present, announced, lineOf_of_fits behind fits, .inr ?_⟩
    rw [← next]
    exact ⟨_, lineAt_of_drop_eq behind, blank⟩
  | malformed fits room visible malformed refused =>
    exact located_of_parseRow_eq_error (lineAt_of_drop_eq behind) refused
  | ragged fits room visible denotes different =>
    refine ⟨different, ⟨_, lineAt_of_drop_eq behind, length_words_of_denotes denotes⟩, number + 1,
      next _, lineOf_of_fits behind fits, number, header, height, rfl, present, announced⟩

private theorem located_of_sizedOutcome {rest : List String} (counted : begun ≤ lines.length)
    (behind : lines.drop begun = rest) (outcome : SizedOutcome begun rest (.error e) taken) :
    e.Located lines .sized begun := by
  cases outcome with
  | noHeader blank =>
    refine .inr ⟨?_, by rwa [behind]⟩
    rw [← behind, List.length_drop]
    omega
  | badHeader blank visible unannounced =>
    exact ⟨_, lineAt_of_drop_eq behind, rfl, unannounced⟩
  | noCell blank visible announced none =>
    exact .inl ⟨_, _, _, lineAt_of_drop_eq behind, announced, none⟩
  | @badBody blanks body header height width taken e blank visible announced tall wide outcome =>
    have split : lines.drop begun = (blanks ++ [header]) ++ body := by
      rw [behind, List.append_assoc, List.singleton_append]
    have rest := drop_of_drop_eq split
    rw [List.length_append, List.length_singleton] at rest
    exact located_of_bodyOutcome (lineAt_of_drop_eq behind) announced rest outcome

end Sized

section Plain

variable {reader : Reader} {lines rest : List String}

/-- What a read makes of the lines that are left: it takes some of them, and if it fails, the error is
about them. -/
def Accounted (lines : List String) (layout : Layout) (reader : Reader) : Prop :=
  ∃ result taken, reader.Yields layout result taken ∧ taken ≤ (lines.drop reader.line).length ∧
    ∀ e, result = .error e → e.Located lines layout reader.line

private theorem accounted_empty (counted : reader.line ≤ lines.length)
    (outcome : PlainOutcome reader (lines.drop reader.line))
    (blank : linesBeforeBlank (lines.drop reader.line) = 0) : Accounted lines .plain reader := by
  cases rest : lines.drop reader.line with
  | nil =>
    refine ⟨_, _, outcome.noLine rest, Nat.zero_le _, ?_⟩
    rintro e ⟨⟩
    have size := congrArg List.length rest
    simp only [List.length_drop, List.length_nil] at size
    have all : reader.line = lines.length := by omega
    exact .inr ⟨all, all⟩
  | cons text below =>
    refine ⟨_, _, outcome.blankLine (by simp [rest]) blank, by simp [rest], ?_⟩
    rintro e ⟨⟩
    have present : (lines.drop reader.line)[0]? = some text := by rw [rest]; rfl
    have nothing : Text.allBlank text = true := by
      by_contra visible
      rw [Bool.not_eq_true] at visible
      simp [rest, linesBeforeBlank, List.findIdx_cons, visible] at blank
    exact .inl ⟨rfl, text, lineAt_of_getElem?_drop present, nothing⟩

private theorem accounted_malformed (outcome : PlainOutcome reader (lines.drop reader.line))
    (bad : ∃ i text, i < linesBeforeBlank (lines.drop reader.line) ∧
      (lines.drop reader.line)[i]? = some text ∧ Malformed text) :
    Accounted lines .plain reader := by
  obtain ⟨i, text, e, early, present, -, refused, yields⟩ := outcome.exists_malformed bad
  have bound := linesBeforeBlank_le (lines.drop reader.line)
  refine ⟨_, _, yields, by omega, ?_⟩
  rintro e' ⟨⟩
  exact located_of_parseRow_eq_error (lineAt_of_getElem?_drop present) refused

private theorem accounted_rows (outcome : PlainOutcome reader (lines.drop reader.line))
    (positive : 0 < linesBeforeBlank (lines.drop reader.line))
    (wellFormed : ∀ i text, i < linesBeforeBlank (lines.drop reader.line) →
      (lines.drop reader.line)[i]? = some text → ¬ Malformed text) :
    Accounted lines .plain reader := by
  obtain ⟨rows, denoted, ragged, complete⟩ := outcome.rows positive wellFormed
  by_cases rectangular : ∀ row ∈ rows, row.length = (rows.headD []).length
  · obtain ⟨g, -, yields⟩ := complete rectangular
    exact ⟨_, _, yields, Nat.min_le_right _ _, fun e h => nomatch h⟩
  · obtain ⟨j, row, below, present, different, same⟩ := Grid.exists_first_ragged rectangular
    have inside : j < rows.length := (List.getElem?_eq_some_iff.1 present).1
    have above : ∀ i < j, LineOf lines (reader.line + 1 + i) (rows.headD []).length := by
      intro i before
      have there := List.getElem?_eq_getElem (Nat.lt_trans before inside)
      rw [← same i _ before there]
      exact lineOf_of_rows denoted there
    refine ⟨_, _, ragged j row present different same, Nat.min_le_right _ _, ?_⟩
    rintro e ⟨⟩
    exact ⟨different, lineOf_of_rows denoted present, reader.line + 1, rfl, above, above 0 below⟩

end Plain

/-- Whether a reader is in step with the lines of a text: what it still has to read are the lines
behind those that it has counted. -/
structure InStep (lines : List String) (reader : Reader) : Prop where
  counted : reader.line ≤ lines.length
  readable : reader.pending.map Piece.text = (lines.drop reader.line).map .ok

section InStep

variable {lines : List String} {reader : Reader}

private theorem accounted_plain (step : InStep lines reader) : Accounted lines .plain reader := by
  have outcome := plainOutcome_of_readable step.readable
  by_cases blank : linesBeforeBlank (lines.drop reader.line) = 0
  · exact accounted_empty step.counted outcome blank
  · by_cases bad : ∃ i text, i < linesBeforeBlank (lines.drop reader.line) ∧
        (lines.drop reader.line)[i]? = some text ∧ Malformed text
    · exact accounted_malformed outcome bad
    · exact accounted_rows outcome (Nat.pos_of_ne_zero blank) fun i text early present fault =>
        bad ⟨i, text, early, present, fault⟩

private theorem accounted_sized (step : InStep lines reader) : Accounted lines .sized reader := by
  obtain ⟨result, taken, outcome⟩ := exists_sizedOutcome reader.line (lines.drop reader.line)
  refine ⟨result, taken, yields_of_outcome step.readable outcome, taken_le_of_outcome outcome, ?_⟩
  rintro e rfl
  exact located_of_sizedOutcome step.counted rfl outcome

private theorem accounted_of_inStep (step : InStep lines reader) (layout : Layout) :
    Accounted lines layout reader := by
  cases layout with
  | plain => exact accounted_plain step
  | sized => exact accounted_sized step

/-- No read gets out of step, whether it succeeds or fails. -/
theorem inStep_read (step : InStep lines reader) (layout : Layout) :
    InStep lines (reader.read layout).2 := by
  obtain ⟨result, taken, yields, bound, -⟩ := accounted_of_inStep step layout
  rw [List.length_drop] at bound
  have counted := step.counted
  rw [yields]
  constructor
  · simp only []
    omega
  · simp only [List.map_drop, step.readable, List.drop_drop]

private theorem located_of_read (step : InStep lines reader) {layout : Layout} {e : ReadError}
    (h : (reader.read layout).1 = .error e) : e.Located lines layout reader.line := by
  obtain ⟨result, taken, yields, -, located⟩ := accounted_of_inStep step layout
  rw [yields] at h
  exact located e h

private theorem inStep_readAll (step : InStep lines reader) (layouts : List Layout) :
    InStep lines (readAll layouts reader).2 := by
  induction layouts generalizing reader with
  | nil => exact step
  | cons layout layouts ih => exact ih (inStep_read step layout)

private theorem inStep_ofBytes (text : String) :
    InStep (Text.lines text) (ofBytes (Text.bytes text)) :=
  ⟨Nat.zero_le _, readable_ofBytes text⟩

end InStep

/-- Any read in any sequence of reads over a text, whatever the reads before it gave, begins behind as
many lines of the text as were counted, and if it fails, its error is about the lines it names. -/
theorem readAll_located (text : String) (before after : List Layout) (layout : Layout) :
    let begun := (readAll before (ofBytes (Text.bytes text))).2
    let results := (readAll (before ++ layout :: after) (ofBytes (Text.bytes text))).1
    begun.pending.map Piece.text = ((Text.lines text).drop begun.line).map .ok ∧
      ∃ result, results[before.length]? = some result ∧
        ∀ e, result = .error e → e.Located (Text.lines text) layout begun.line := by
  intro begun results
  have step : InStep (Text.lines text) begun := inStep_readAll (inStep_ofBytes text) before
  refine ⟨step.readable, (begun.read layout).1, ?_, fun e => located_of_read step⟩
  simp only [results]
  rw [readAll_append, readAll_cons, List.getElem?_append_right, length_readAll, Nat.sub_self]
  · rfl
  · exact Nat.le_of_eq (length_readAll _ _)

end Reader

end GameOfLife

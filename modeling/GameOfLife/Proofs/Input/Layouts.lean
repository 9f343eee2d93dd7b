import GameOfLife.Proofs.Input.Locality
import GameOfLife.Proofs.Input.PlainGrid
import GameOfLife.Proofs.Input.SizedGrid

/-!
The same rows in both layouts. Lines that are not blank are read as a plain grid, with a blank line
behind them, and as a sized one, behind a header that announces their number and the length of the first.
Both layouts give the same grid, or both refuse the lines, for the same reason and one line later in the
sized grid; but a row of the wrong length above a malformed line is noticed in the sized grid only.
-/

set_option autoImplicit false
set_option relaxedAutoImplicit false

namespace GameOfLife

open Text

inductive ReadError.OfWord (line : Nat) : ReadError → Prop
  | invalidToken (token : String) : OfWord line (.invalidToken line token)
  | notBinary (value : Int) : OfWord line (.notBinary line value)

private theorem ReadError.OfWord.of_parseRow {text : String} {line : Nat} {e : ReadError}
    (h : parseRow text line = .error e) : e.OfWord line := by
  obtain ⟨-, word, -, -, -, refused⟩ := exists_of_parseRow_eq_error h
  unfold parseCell at refused
  cases literal : Text.integer? word with
  | none =>
    simp only [literal, Except.error.injEq] at refused
    subst refused
    exact .invalidToken word
  | some value =>
    cases cell : Cell.ofInt? value with
    | none =>
      simp only [literal, cell, Except.error.injEq] at refused
      subst refused
      exact .notBinary value
    | some cell' => simp [literal, cell] at refused

private theorem ReadError.OfWord.unique {e : ReadError} {a b : Nat} (ha : e.OfWord a) (hb : e.OfWord b) :
    a = b := by
  cases ha <;> cases hb <;> rfl

namespace Reader

/-- How the result of reading lines behind a header answers to that of reading them as a plain grid,
where each of them has a number smaller by one. -/
inductive Answers (lines : List String) : Except ReadError Grid → Except ReadError Grid → Prop
  | grid (g : Grid) : Answers lines (.ok g) (.ok g)
  | word {e : ReadError} {line : Nat} : e.OfWord line →
      Answers lines (.error e) (.error (e.later 1))
  | ragged (line row expected found : Nat) :
      Answers lines (.error (.grid line (.ragged row expected found)))
        (.error (.grid (line + 1) (.ragged row expected found)))
  | raggedAbove {e : ReadError} {line row expected found : Nat} {text : String} :
      e.OfWord line → row + 1 < line → lines[row]? = some text → (words text).length = found →
      found ≠ expected →
      Answers lines (.error e) (.error (.grid (row + 2) (.ragged row expected found)))

section Lines

variable {lines : List String} {reader : Reader} {width : Nat}

private theorem linesBeforeBlank_append_empty (visible : ∀ text ∈ lines, allBlank text = false) :
    linesBeforeBlank (lines ++ [""]) = lines.length := by
  have empty : allBlank "" = true := by decide
  have none : lines.findIdx allBlank = lines.length := List.findIdx_eq_length.2 visible
  simp [linesBeforeBlank, List.findIdx_append, none, List.findIdx_cons, empty]

private theorem denotes_rightUnique : Relator.RightUnique Denotes :=
  fun _ _ _ ha hb => Except.ok.inj ((ha 0).symm.trans (hb 0))

private theorem length_of_denoted {rows : List (List Cell)} (denoted : List.Forall₂ Denotes lines rows)
    {i : Nat} {text : String} {row : List Cell} (line : lines[i]? = some text)
    (present : rows[i]? = some row) : row.length = (words text).length := by
  obtain ⟨inLines, rfl⟩ := List.getElem?_eq_some_iff.1 line
  obtain ⟨inRows, rfl⟩ := List.getElem?_eq_some_iff.1 present
  exact (length_words_of_denotes (denoted.get inLines inRows)).symm

private theorem of_fits {above below : List String} {rows : List (List Cell)}
    (fits : List.Forall₂ (Fits width) above rows) {i : Nat} {text : String} (h : i < above.length)
    (line : (above ++ below)[i]? = some text) : ¬ Malformed text ∧ (words text).length = width := by
  rw [List.getElem?_append_left h] at line
  obtain ⟨bound, rfl⟩ := List.getElem?_eq_some_iff.1 line
  obtain ⟨-, denotes, length⟩ := fits.get h (fits.length_eq ▸ h)
  exact ⟨not_malformed_of_denotes denotes, (length_words_of_denotes denotes).trans length⟩

/-- A fresh reader in front of lines that are not blank, the first of which has `width` words, with a
blank line behind them. -/
structure Facing (reader : Reader) (lines : List String) (width : Nat) : Prop where
  outcome : PlainOutcome reader (lines ++ [""])
  fresh : reader.line = 0
  nonempty : lines ≠ []
  visible : ∀ text ∈ lines, allBlank text = false
  first : ∀ text, lines[0]? = some text → (words text).length = width

namespace Facing

private theorem exists_malformed (facing : Facing reader lines width) (bad : ∃ text ∈ lines, Malformed text) :
    ∃ i text e, lines[i]? = some text ∧ Malformed text ∧ e.OfWord (i + 1) ∧
      (reader.read .plain).1 = .error e := by
  have count := linesBeforeBlank_append_empty facing.visible
  obtain ⟨text, member, malformed⟩ := bad
  obtain ⟨i, present⟩ := List.mem_iff_getElem?.1 member
  have bound := (List.getElem?_eq_some_iff.1 present).1
  obtain ⟨i, text, e, early, present, malformed, refused, yields⟩ := facing.outcome.exists_malformed
    ⟨i, text, by omega, by rwa [List.getElem?_append_left bound], malformed⟩
  rw [count] at early
  rw [List.getElem?_append_left early] at present
  rw [facing.fresh, Nat.zero_add] at refused
  exact ⟨i, text, e, present, malformed, .of_parseRow refused, congrArg Prod.fst yields⟩

private theorem exists_rows (facing : Facing reader lines width)
    (wellFormed : ∀ text ∈ lines, ¬ Malformed text) :
    ∃ rows, List.Forall₂ Denotes lines rows ∧
      (∀ j text, lines[j]? = some text → (words text).length ≠ width →
        (∀ i earlier, i < j → lines[i]? = some earlier → (words earlier).length = width) →
        (reader.read .plain).1 = .error (.grid (1 + j) (.ragged j width (words text).length))) ∧
      ((∀ row ∈ rows, row.length = width) → ∃ g : Grid, g.rows = rows ∧
        (reader.read .plain).1 = .ok g) := by
  have count := linesBeforeBlank_append_empty facing.visible
  have positive : 0 < linesBeforeBlank (lines ++ [""]) := by
    rw [count]
    exact List.length_pos_iff.2 facing.nonempty
  obtain ⟨rows, denoted, ragged, complete⟩ := facing.outcome.rows positive (by
    intro i text early present
    rw [count] at early
    rw [List.getElem?_append_left early] at present
    exact wellFormed text (List.mem_of_getElem? present))
  rw [count, List.take_left] at denoted
  have top : (rows.headD []).length = width := by
    cases denoted with
    | nil => exact absurd rfl facing.nonempty
    | cons denotes _ => exact (length_words_of_denotes denotes).symm.trans (facing.first _ rfl)
  rw [top, facing.fresh, Nat.zero_add] at ragged
  rw [top] at complete
  refine ⟨rows, denoted, ?_, ?_⟩
  · intro j text line different same
    have inside : j < rows.length := by
      rw [← denoted.length_eq]
      exact (List.getElem?_eq_some_iff.1 line).1
    have length := length_of_denoted denoted line (List.getElem?_eq_getElem inside)
    have yields := ragged j _ (List.getElem?_eq_getElem inside) (by rwa [length]) (by
      intro i earlier before present
      have there := List.getElem?_eq_getElem
        (Nat.lt_trans before (List.getElem?_eq_some_iff.1 line).1)
      rw [length_of_denoted denoted there present]
      exact same i _ before there)
    rw [length] at yields
    exact congrArg Prod.fst yields
  · intro rectangular
    obtain ⟨g, shown, yields⟩ := complete rectangular
    exact ⟨g, shown, congrArg Prod.fst yields⟩

section Exits

variable {above below : List String} {text : String} {rows : List (List Cell)}

private theorem answers_malformed (facing : Facing reader (above ++ text :: below) width)
    (fits : List.Forall₂ (Fits width) above rows) (malformed : Malformed text) {e : ReadError}
    (refused : parseRow text (1 + (above.length + 1)) = .error e) :
    Answers (above ++ text :: below) (reader.read .plain).1 (.error e) := by
  have count := linesBeforeBlank_append_empty facing.visible
  obtain ⟨e', refused', yields⟩ := facing.outcome.malformed above.length text
    (by rw [count]; simp) (by simp) malformed (by
      intro j earlier before there
      rw [List.append_assoc] at there
      exact (of_fits fits before there).1)
  rw [facing.fresh, Nat.zero_add] at refused'
  have later : e = e'.later 1 := by
    rw [Nat.add_comm, parseRow_later, refused'] at refused
    exact (Except.error.inj refused).symm
  rw [congrArg Prod.fst yields, later]
  exact .word (.of_parseRow refused')

private theorem answers_ragged (facing : Facing reader (above ++ text :: below) width)
    (fits : List.Forall₂ (Fits width) above rows) {row : List Cell} (denotes : Denotes text row)
    (different : row.length ≠ width) :
    Answers (above ++ text :: below) (reader.read .plain).1
      (.error (.grid (1 + (above.length + 1)) (.ragged above.length width row.length))) := by
  have line : (above ++ text :: below)[above.length]? = some text := by simp
  have length := length_words_of_denotes denotes
  have number : 1 + (above.length + 1) = above.length + 2 := by omega
  by_cases bad : ∃ earlier ∈ above ++ text :: below, Malformed earlier
  · obtain ⟨i, earlier, e, present, malformed, word, result⟩ := facing.exists_malformed bad
    have lower : above.length < i := by
      by_contra notLower
      rcases Nat.lt_or_eq_of_le (Nat.not_lt.1 notLower) with before | rfl
      · exact (of_fits fits before present).1 malformed
      · rw [line, Option.some.injEq] at present
        exact not_malformed_of_denotes denotes (present ▸ malformed)
    rw [result, number]
    exact .raggedAbove word (by omega) line length different
  · obtain ⟨_, -, ragged, -⟩ := facing.exists_rows fun earlier member malformed =>
      bad ⟨earlier, member, malformed⟩
    have result := ragged above.length text line (by rwa [length])
      fun i earlier before there => (of_fits fits before there).2
    rw [result, length, ← Nat.add_assoc]
    exact .ragged _ _ _ _

private theorem answers_complete {g : Grid} (facing : Facing reader lines width)
    (fits : List.Forall₂ (Fits width) lines g.rows) :
    Answers lines (reader.read .plain).1 (.ok g) := by
  have denotes : List.Forall₂ Denotes lines g.rows := fits.imp fun _ _ h => h.2.1
  have wellFormed : ∀ text ∈ lines, ¬ Malformed text := by
    intro text member
    obtain ⟨i, present⟩ := List.mem_iff_getElem?.1 member
    have bound := (List.getElem?_eq_some_iff.1 present).1
    have there : (lines ++ [])[i]? = some text := by rwa [List.append_nil]
    exact (of_fits fits bound there).1
  obtain ⟨_, denoted, -, complete⟩ := facing.exists_rows wellFormed
  obtain rfl := denotes_rightUnique.forall₂ denoted denotes
  obtain ⟨g', shown, result⟩ := complete (length_of_fits fits)
  rw [result, Grid.rows_injective shown]
  exact .grid g

end Exits

/-- Whatever becomes of the lines behind a header, the plain layout gives the result it answers to. -/
theorem answers_of_body {height : Nat} (facing : Facing reader lines width)
    (counted : lines.length = height) {result : Except ReadError (List (List Cell))} {taken : Nat}
    (body : BodyOutcome height width 1 lines result taken) :
    (∀ e, result = .error e → Answers lines (reader.read .plain).1 (.error e)) ∧
      ∀ g : Grid, result = .ok g.rows → Answers lines (reader.read .plain).1 (.ok g) := by
  cases body with
  | missing fits room => omega
  | @blank above below text rows fits room blank =>
    rw [facing.visible text (by simp)] at blank
    exact nomatch blank
  | malformed fits room visible malformed refused =>
    refine ⟨?_, nofun⟩
    rintro e ⟨⟩
    exact facing.answers_malformed fits malformed refused
  | ragged fits room visible denotes different =>
    refine ⟨?_, nofun⟩
    rintro e ⟨⟩
    exact facing.answers_ragged fits denotes different
  | @complete above below rows fits full =>
    refine ⟨nofun, ?_⟩
    rintro g ⟨⟩
    obtain rfl : below = [] := by
      rw [← List.length_eq_zero_iff]
      simp only [List.length_append] at counted
      omega
    rw [List.append_nil] at facing ⊢
    exact facing.answers_complete fits

end Facing

end Lines

/-- The results of the same lines in both layouts: the same grid, or errors that stand for the same
fault, unless the sized grid is refused for a row above the word that the plain one is refused for. No
error of the sized grid is about its header or its end. -/
structure Agree (lines : List String) (plain sized : Except ReadError Grid) : Prop where
  answers : Answers lines plain sized
  grid_iff : ∀ g, plain = .ok g ↔ sized = .ok g
  ragged : ∀ line row expected found, plain = .error (.grid line (.ragged row expected found)) →
    sized = .error (.grid (line + 1) (.ragged row expected found))
  word : ∀ e line, plain = .error e → e.OfWord line →
    sized = .error (e.later 1) ∨ ∃ line' row expected found, line' ≤ line ∧
      sized = .error (.grid line' (.ragged row expected found))
  notHeader : ∀ line text, sized ≠ .error (.badHeader line text)
  notTruncated : ∀ expected found, sized ≠ .error (.truncated expected found)
  notEmpty : ∀ line, sized ≠ .error (.grid line .empty)

private theorem Answers.ofWord_or_ragged {lines : List String} {plain : Except ReadError Grid} {e : ReadError}
    (h : Answers lines plain (.error e)) :
    (∃ line, e.OfWord line) ∨
      ∃ line row expected found, e = .grid line (.ragged row expected found) := by
  cases h with
  | word word =>
    cases word with
    | invalidToken token => exact .inl ⟨_, .invalidToken token⟩
    | notBinary value => exact .inl ⟨_, .notBinary value⟩
  | ragged line row expected found => exact .inr ⟨_, _, _, _, rfl⟩
  | raggedAbove => exact .inr ⟨_, _, _, _, rfl⟩

private theorem Answers.agree {lines : List String} {plain sized : Except ReadError Grid}
    (h : Answers lines plain sized) : Agree lines plain sized where
  answers := h
  grid_iff g := by cases h <;> simp
  ragged line row expected found refused := by
    cases h with
    | grid g => exact nomatch refused
    | word word | raggedAbove word =>
      cases refused
      exact nomatch word
    | ragged =>
      cases refused
      rfl
  word e line refused word := by
    cases h with
    | grid g => exact nomatch refused
    | word =>
      cases refused
      exact .inl rfl
    | ragged =>
      cases refused
      exact nomatch word
    | raggedAbove word' above =>
      cases refused
      have same := word.unique word'
      exact .inr ⟨_, _, _, _, by omega, rfl⟩
  notHeader line text refused := by
    subst refused
    obtain ⟨_, ⟨⟩⟩ | ⟨_, _, _, _, ⟨⟩⟩ := h.ofWord_or_ragged
  notTruncated expected found refused := by
    subst refused
    obtain ⟨_, ⟨⟩⟩ | ⟨_, _, _, _, ⟨⟩⟩ := h.ofWord_or_ragged
  notEmpty line refused := by
    subst refused
    obtain ⟨_, ⟨⟩⟩ | ⟨_, _, _, _, ⟨⟩⟩ := h.ofWord_or_ragged

private theorem Answers.of_withoutLineEnd {lines : List String} {plain sized : Except ReadError Grid}
    (h : Answers (lines.map fun line => Piece.withoutLineEnd (line ++ "\n")) plain sized) :
    Answers lines plain sized := by
  cases h with
  | grid g => exact .grid g
  | word word => exact .word word
  | ragged => exact .ragged _ _ _ _
  | raggedAbove word above present length different =>
    rw [List.getElem?_map, Option.map_eq_some_iff] at present
    obtain ⟨line, there, rfl⟩ := present
    rw [words_ended] at length
    exact .raggedAbove word above there length different

private theorem facing_ofBytes {first : String} {others : List String}
    (whole : ∀ line ∈ first :: others, '\n' ∉ line.toList ∧ allBlank line = false) :
    Facing (ofBytes (bytes (unlines (first :: others) ++ "\n")))
      ((first :: others).map fun line => Piece.withoutLineEnd (line ++ "\n"))
      (words first).length where
  outcome := by
    have cut := lines_unlines_append_of_notMem (fun line member => (whole line member).1) "\n"
    have blank : lines "\n" = [""] := by decide
    rw [blank] at cut
    rw [← cut]
    exact plainOutcome_of_readable (readable_ofBytes _)
  fresh := rfl
  nonempty := by simp
  visible text member := by
    obtain ⟨line, there, rfl⟩ := List.mem_map.1 member
    rw [allBlank_ended]
    exact (whole line there).2
  first text present := by
    cases present
    rw [words_ended]

private theorem readable_headed {header : String} {lines : List String} (unbroken : Unbroken header)
    (whole : ∀ line ∈ lines, '\n' ∉ line.toList) :
    (ofBytes (bytes (header ++ "\n" ++ unlines lines))).pending.map Piece.text =
      (header :: lines.map fun line => Piece.withoutLineEnd (line ++ "\n")).map .ok := by
  have notMem : ∀ line ∈ header :: lines, '\n' ∉ line.toList := by
    simp only [List.mem_cons, forall_eq_or_imp]
    exact ⟨newline_notMem_of_unbroken unbroken, whole⟩
  have cut := lines_unlines_append_of_notMem notMem ""
  rw [String.append_empty, unlines_cons, List.map_cons, withoutLineEnd_append_newline unbroken] at cut
  have none : Text.lines "" = [] := by decide
  rw [readable_ofBytes, cut, none, List.append_nil]

/-- Lines that are not blank, in both layouts: with a blank line behind them and behind the header that
announces their number and the number of words of the first. -/
theorem agree_layouts (first : String) (others : List String)
    (whole : ∀ line ∈ first :: others, '\n' ∉ line.toList ∧ allBlank line = false)
    (tall : (first :: others).length < UInt64.size) (wide : (words first).length < UInt64.size) :
    let lines := first :: others
    let header := headerText lines.length (words first).length
    Agree lines (readPlain (ofBytes (bytes (unlines lines ++ "\n")))).1
      (readSized (ofBytes (bytes (header ++ "\n" ++ unlines lines)))).1 := by
  intro lines header
  have facing := facing_ofBytes whole
  have readable := readable_headed (unbroken_headerText lines.length (words first).length)
    fun line member => (whole line member).1
  have visible : allBlank header = false := allBlank_headerText _ _
  have announced : Announces header lines.length (words first).length :=
    headerSize?_eq_some_iff.1 (headerSize?_headerText tall wide)
  have filled : 0 < (words first).length :=
    List.length_pos_iff.2 (words_ne_nil (whole first List.mem_cons_self).2)
  have tallEnough : 0 < lines.length := Nat.succ_pos _
  obtain ⟨result, taken, body⟩ := exists_bodyOutcome lines.length (words first).length 1
    (lines.map fun line => Piece.withoutLineEnd (line ++ "\n"))
  have answers := facing.answers_of_body (List.length_map ..) body
  refine Answers.agree (Answers.of_withoutLineEnd ?_)
  -- The outcome of the body is that of the whole, since no blank line stands above the header.
  cases result with
  | error e =>
    have whole : SizedOutcome 0 ([] ++ header :: _) (.error e) _ :=
      .badBody nofun visible announced tallEnough filled body
    have sized : (readSized (ofBytes (bytes (header ++ "\n" ++ unlines lines)))).1 = .error e :=
      congrArg Prod.fst (yields_of_outcome readable whole)
    rw [sized]
    exact answers.1 e rfl
  | ok rows =>
    obtain ⟨g, rfl⟩ := exists_rows_of_complete tallEnough filled body
    have whole : SizedOutcome 0 ([] ++ header :: _) (.ok g) _ :=
      .complete nofun visible announced tallEnough filled body
    have sized : (readSized (ofBytes (bytes (header ++ "\n" ++ unlines lines)))).1 = .ok g :=
      congrArg Prod.fst (yields_of_outcome readable whole)
    rw [sized]
    exact answers.2 g rfl

/-- A row that is too short stands above a malformed one, and the first line ends in a carriage return.
The plain layout refuses the malformed line, the sized one the row above it. -/
theorem agree_layouts_shortRow :
    let lines := ["0 1\r", "1", "x 0"]
    let plain := (readPlain (ofBytes (bytes (unlines lines ++ "\n")))).1
    let sized := (readSized (ofBytes (bytes (headerText 3 2 ++ "\n" ++ unlines lines)))).1
    ((∀ line ∈ lines, '\n' ∉ line.toList ∧ allBlank line = false) ∧ lines.length < UInt64.size ∧
      (words "0 1\r").length < UInt64.size) ∧
      Agree lines plain sized ∧ plain = .error (.invalidToken 3 "x") ∧
        sized = .error (.grid 3 (.ragged 1 2 1)) := by
  intro lines plain sized
  have whole : ∀ line ∈ lines, '\n' ∉ line.toList ∧ allBlank line = false := by decide
  have wide : (words "0 1\r").length < UInt64.size := by decide
  have agree : Agree lines plain sized := agree_layouts "0 1\r" ["1", "x 0"] whole (by decide) wide
  exact ⟨⟨whole, by decide, wide⟩, agree, by decide +kernel, by decide +kernel⟩

end Reader

end GameOfLife

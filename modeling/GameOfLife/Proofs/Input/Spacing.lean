import GameOfLife.Proofs.Input.Locality

/-!
Reads and spacing. Of a line only its words matter: two texts whose lines have the same words, line for line,
are read alike, with the same grids, the same errors at the same lines, and as many lines taken by every
read. What the report of a wrong header quotes may differ, but not in its words. Texts whose lines differ in
their blanks are of this kind, also if only one of them ends in a newline.
-/

set_option autoImplicit false
set_option relaxedAutoImplicit false

namespace GameOfLife

open Text

namespace Text

/-- The words of every line of a text. A newline ends a line, and what stands behind the last newline is a
line of its own if there is anything. -/
def lineWords (text : String) : List (List String) :=
  (cutLines text.toList).map fun line => words (String.ofList line)

/-- One line becomes another by changes of its blanks: those at the edges can become any blanks or none,
those between words can become any blanks, but not none. -/
inductive Respaced : List Char → List Char → Prop
  | edges {lead lead' trail trail' : List Char} (middle : List Char) : Blanks lead → Blanks lead' →
      Blanks trail → Blanks trail' → Respaced (lead ++ middle ++ trail) (lead' ++ middle ++ trail')
  | between {gap gap' : List Char} (front back : List Char) : Blanks gap → Blanks gap' → gap ≠ [] →
      gap' ≠ [] → Respaced (front ++ gap ++ back) (front ++ gap' ++ back)
  | trans {a b c : List Char} : Respaced a b → Respaced b c → Respaced a c

/-- A text with given lines, the last of which may lack its newline. -/
inductive Laid : List String → String → Prop
  | closed {rows : List String} : (∀ row ∈ rows, '\n' ∉ row.toList) → Laid rows (unlines rows)
  | unclosed {rows : List String} {last : String} : (∀ row ∈ rows, '\n' ∉ row.toList) →
      '\n' ∉ last.toList → last ≠ "" → Laid (rows ++ [last]) (unlines rows ++ last)

/-- Two texts whose lines differ in their blanks, and perhaps in the newline at the very end. -/
def Relaid (a b : String) : Prop :=
  ∃ rows rows', Laid rows a ∧ Laid rows' b ∧
    List.Forall₂ (fun row row' => Respaced row.toList row'.toList) rows rows'

private theorem Respaced.wordLists_eq {a b : List Char} (h : Respaced a b) : wordLists a = wordLists b := by
  induction h with
  | edges middle lead lead' trail trail' =>
    rw [wordLists_append_blanks trail, wordLists_append_blanks trail', wordLists_blanks_append lead,
      wordLists_blanks_append lead']
  | between front back gap gap' some some' =>
    rw [wordLists_append_blanks_append gap some, wordLists_append_blanks_append gap' some']
  | trans _ _ first second => exact first.trans second

private theorem cutLines_of_notMem {line : List Char} (h : '\n' ∉ line) (some : line ≠ []) :
    cutLines line = [line] := by
  induction line with
  | nil => exact absurd rfl some
  | cons c line ih =>
    simp only [List.mem_cons, not_or] at h
    have different : c ≠ '\n' := fun same => h.1 same.symm
    rw [cutLines, if_neg different]
    cases line with
    | nil => rfl
    | cons next line => rw [ih h.2 (List.cons_ne_nil next line)]

private theorem lineWords_of_laid {rows : List String} {text : String} (h : Laid rows text) :
    lineWords text = rows.map words := by
  have same : ∀ row : String, words (String.ofList (row.toList ++ ['\n'])) = words row := by
    intro row
    rw [String.ofList_append, String.ofList_toList]
    exact words_append_newline row
  have ended : ∀ rows : List String, ((rows.map fun row => row.toList ++ ['\n']).map fun line =>
      words (String.ofList line)) = rows.map words := by
    intro rows
    simp only [List.map_map, Function.comp_def, same]
  cases h with
  | closed notMem =>
    have cut := cutLines_unlines_append notMem []
    rw [List.append_nil, cutLines, List.append_nil] at cut
    rw [lineWords, cut, ended]
  | @unclosed rows last notMem whole some =>
    have filled : cutLines last.toList = [last.toList] :=
      cutLines_of_notMem whole fun none => some (String.toList_eq_nil_iff.1 none)
    rw [lineWords, String.toList_append, cutLines_unlines_append notMem, filled, List.map_append,
      ended, List.map_append, List.map_singleton, List.map_singleton, String.ofList_toList]

private theorem Relaid.lineWords_eq {a b : String} (h : Relaid a b) : lineWords a = lineWords b := by
  obtain ⟨rows, rows', laid, laid', respaced⟩ := h
  rw [lineWords_of_laid laid, lineWords_of_laid laid']
  clear laid laid'
  induction respaced with
  | nil => rfl
  | cons first _ ih =>
    have same : words _ = words _ := congrArg (List.map String.ofList) first.wordLists_eq
    rw [List.map_cons, List.map_cons, same, ih]

end Text

/-- The same error, except that the wrong header it quotes may have other blanks between its words. -/
inductive ReadError.Alike : ReadError → ReadError → Prop
  | same (e : ReadError) : Alike e e
  | badHeader {a b : String} (line : Nat) : words a = words b → Trimmed a → Trimmed b →
      Alike (.badHeader line a) (.badHeader line b)

inductive AlikeResults {α : Type} (related : α → α → Prop) :
    Except ReadError α → Except ReadError α → Prop
  | ok {a b : α} : related a b → AlikeResults related (.ok a) (.ok b)
  | error {e e' : ReadError} : e.Alike e' → AlikeResults related (.error e) (.error e')

def Piece.Alike (a b : Piece) : Prop :=
  ∃ text text', a.text = .ok text ∧ b.text = .ok text' ∧ words text = words text'

namespace Reader

/-- Readers at the same line with lines of the same words in front of them. -/
structure Alike (a b : Reader) : Prop where
  line : a.line = b.line
  pending : List.Forall₂ Piece.Alike a.pending b.pending

structure AlikeAnswers {α : Type} (related : α → α → Prop) (a b : Answer α) : Prop where
  result : AlikeResults related a.1 b.1
  left : a.2.Alike b.2

/-- Reads over two inputs that give alike results, after each of which both inputs are at the same line with
as many lines left, which have the same words. -/
structure AlikeRuns (layouts : List Layout) (a b : Reader) : Prop where
  results : List.Forall₂ (AlikeResults Eq) (readAll layouts a).1 (readAll layouts b).1
  stops : ∀ n, (readAll (layouts.take n) a).2.Alike (readAll (layouts.take n) b).2

section Simulation

variable {α β : Type} {related : α → α → Prop} {related' : β → β → Prop} {line : Nat}
  {pending pending' : List Piece}

private theorem AlikeAnswers.error (e : ReadError) (left : List.Forall₂ Piece.Alike pending pending') :
    AlikeAnswers related (.error e, ⟨pending, line⟩) (.error e, ⟨pending', line⟩) :=
  ⟨.error (.same e), rfl, left⟩

private theorem AlikeAnswers.ok {a b : α} (h : related a b)
    (left : List.Forall₂ Piece.Alike pending pending') :
    AlikeAnswers related (.ok a, ⟨pending, line⟩) (.ok b, ⟨pending', line⟩) :=
  ⟨.ok h, rfl, left⟩

private theorem AlikeAnswers.map {a b : Answer α} (h : AlikeAnswers Eq a b) (f : α → β) :
    AlikeAnswers Eq (a.1.map f, a.2) (b.1.map f, b.2) := by
  obtain ⟨result, reader⟩ := a
  obtain ⟨result', reader'⟩ := b
  obtain ⟨same, left⟩ := h
  cases same with
  | ok same => exact ⟨.ok (congrArg f same), left⟩
  | error alike => exact ⟨.error alike, left⟩

private theorem AlikeAnswers.proceed {a b : Answer α} {next next' : α → Reader → Answer β}
    (h : AlikeAnswers related a b)
    (others : ∀ {value value' start start'}, related value value' → start.Alike start' →
      AlikeAnswers related' (next value start) (next' value' start')) :
    AlikeAnswers related' (Reader.proceed a next) (Reader.proceed b next') := by
  obtain ⟨result, reader⟩ := a
  obtain ⟨result', reader'⟩ := b
  obtain ⟨same, left⟩ := h
  cases same with
  | ok same => exact others same left
  | error alike => exact ⟨.error alike, left⟩

private theorem parseRow_of_words_eq {text text' : String} (h : words text = words text') (line : Nat) :
    parseRow text line = parseRow text' line := by
  rw [parseRow, h, ← parseRow]

private theorem headerSize?_of_words_eq {text text' : String} (h : words text = words text') :
    headerSize? text = headerSize? text' := by
  rw [headerSize?, h, ← headerSize?]

private theorem alike_takeRows (h : List.Forall₂ Piece.Alike pending pending') (line : Nat) :
    AlikeAnswers Eq (takeRows line pending) (takeRows line pending') := by
  induction h generalizing line with
  | nil => exact .ok rfl .nil
  | cons first others ih =>
    obtain ⟨text, text', answer, answer', same⟩ := first
    simp only [takeRows, answer, answer', allBlank_of_words_eq same, parseRow_of_words_eq same]
    split
    · exact .ok rfl others
    · cases parseRow text' (line + 1) with
      | error e => exact .error e others
      | ok row => exact (ih (line + 1)).map _

private theorem alike_takeHeader (h : List.Forall₂ Piece.Alike pending pending') (line : Nat) :
    AlikeAnswers (fun header header' => words header = words header') (takeHeader line pending)
      (takeHeader line pending') := by
  induction h generalizing line with
  | nil => exact .error _ .nil
  | cons first others ih =>
    obtain ⟨text, text', answer, answer', same⟩ := first
    simp only [takeHeader, answer, answer', allBlank_of_words_eq same]
    split
    · exact ih (line + 1)
    · exact .ok same others

private theorem alike_takeBody (h : List.Forall₂ Piece.Alike pending pending') (height width found line : Nat) :
    AlikeAnswers Eq (takeBody height width found line pending)
      (takeBody height width found line pending') := by
  induction h generalizing found line with
  | nil =>
    unfold takeBody
    split
    · exact .error _ .nil
    · exact .ok rfl .nil
  | cons first others ih =>
    obtain ⟨text, text', answer, answer', same⟩ := first
    simp only [takeBody, answer, answer', allBlank_of_words_eq same, parseRow_of_words_eq same]
    split
    · split
      · exact .error _ others
      · cases parseRow text' (line + 1) with
        | error e => exact .error e others
        | ok row =>
          dsimp only
          split
          · exact (ih (found + 1) (line + 1)).map _
          · exact .error _ others
    · exact .ok rfl (.cons ⟨text, text', answer, answer', same⟩ others)

private theorem alike_assemble {start start' : Reader} (h : start.Alike start') (first : Nat)
    (rows : List (List Cell)) :
    AlikeAnswers Eq (assemble first rows start) (assemble first rows start') := by
  unfold assemble
  rw [h.line]
  cases Grid.ofRows rows with
  | ok g => exact ⟨.ok rfl, h⟩
  | error cause => cases cause <;> exact ⟨.error (.same _), h⟩

private theorem alike_readBody {header header' : String} {start start' : Reader}
    (same : words header = words header') (h : start.Alike start') :
    AlikeAnswers Eq (readBody header start) (readBody header' start') := by
  unfold readBody
  rw [headerSize?_of_words_eq same, h.line]
  cases headerSize? header' with
  | none =>
    have quoted : words (trim header) = words (trim header') := by rw [words_trim, words_trim, same]
    exact ⟨.error (.badHeader _ quoted (trimmed_trim header) (trimmed_trim header')), h⟩
  | some size =>
    obtain ⟨height, width⟩ := size
    dsimp only
    split
    · exact ⟨.error (.same _), h⟩
    · refine (alike_takeBody h.pending height width 0 start'.line).proceed ?_
      rintro rows _ left left' rfl alike
      exact alike_assemble alike _ rows

private theorem alike_read {a b : Reader} (h : a.Alike b) (layout : Layout) :
    AlikeAnswers Eq (a.read layout) (b.read layout) := by
  cases layout with
  | plain =>
    rw [read, read, readPlain_eq_proceed, readPlain_eq_proceed, h.line]
    refine (alike_takeRows h.pending b.line).proceed ?_
    rintro rows _ left left' rfl alike
    exact alike_assemble alike _ rows
  | sized =>
    rw [read, read, readSized_eq_proceed, readSized_eq_proceed, h.line]
    exact (alike_takeHeader h.pending b.line).proceed alike_readBody

private theorem alikeRuns {a b : Reader} (h : a.Alike b) (layouts : List Layout) : AlikeRuns layouts a b := by
  induction layouts generalizing a b with
  | nil => exact ⟨.nil, fun n => by rwa [List.take_nil]⟩
  | cons layout layouts ih =>
    obtain ⟨first, left⟩ := alike_read h layout
    obtain ⟨results, stops⟩ := ih left
    refine ⟨.cons first results, ?_⟩
    rintro (_ | n)
    · exact h
    · exact stops n

end Simulation

private theorem alike_of_readable {texts texts' : List String} {pending pending' : List Piece}
    (readable : pending.map Piece.text = texts.map .ok)
    (readable' : pending'.map Piece.text = texts'.map .ok)
    (same : texts.map words = texts'.map words) : List.Forall₂ Piece.Alike pending pending' := by
  have alike : List.Forall₂ (fun answer answer' : Except Fault String => ∃ text text',
      answer = .ok text ∧ answer' = .ok text' ∧ words text = words text')
      (pending.map Piece.text) (pending'.map Piece.text) := by
    rw [readable, readable', List.forall₂_map_left_iff, List.forall₂_map_right_iff]
    rw [← List.forall₂_eq_eq_eq, List.forall₂_map_left_iff, List.forall₂_map_right_iff] at same
    exact same.imp fun text text' same => ⟨text, text', rfl, rfl, same⟩
  rwa [List.forall₂_map_left_iff, List.forall₂_map_right_iff] at alike

private theorem alike_ofBytes {a b : String} (h : lineWords a = lineWords b) :
    (ofBytes (bytes a)).Alike (ofBytes (bytes b)) := by
  have stripped : ∀ text, lineWords text = (lines text).map words := by
    intro text
    simp only [lineWords, lines, List.map_map, Function.comp_def, words_withoutLineEnd]
  rw [stripped, stripped] at h
  exact ⟨rfl, alike_of_readable (readable_ofBytes a) (readable_ofBytes b) h⟩

/-- Spacing makes no difference to any sequence of reads. -/
theorem readAll_respaced {a b : String} (h : lineWords a = lineWords b ∨ Relaid a b)
    (layouts : List Layout) : AlikeRuns layouts (ofBytes (bytes a)) (ofBytes (bytes b)) := by
  have same : lineWords a = lineWords b := h.elim id Relaid.lineWords_eq
  exact alikeRuns (alike_ofBytes same) layouts

/-- A carriage return, a blank line that is not empty, a tab with a no-break space and the newline at the
end make the difference, and it shows only in the header that is quoted. -/
theorem readAll_respaced_header :
    let a := "1\r\n \n2 x\n"
    let b := "1\n\n2\t\u00a0x"
    (lineWords a = lineWords b ∨ Relaid a b) ∧
      AlikeRuns [.plain, .sized] (ofBytes (bytes a)) (ofBytes (bytes b)) ∧
      (readAll [.plain, .sized] (ofBytes (bytes a))).1[1]? = some (.error (.badHeader 3 "2 x")) ∧
      (readAll [.plain, .sized] (ofBytes (bytes b))).1[1]? =
        some (.error (.badHeader 3 "2\t\u00a0x")) := by
  intro a b
  have row : Respaced "1\r".toList "1".toList :=
    .edges ['1'] (by decide : Blanks []) (by decide : Blanks []) (by decide : Blanks ['\r'])
      (by decide : Blanks [])
  have separator : Respaced " ".toList "".toList :=
    .edges [] (by decide : Blanks [' ']) (by decide : Blanks []) (by decide : Blanks [])
      (by decide : Blanks [])
  have header : Respaced "2 x".toList "2\t\u00a0x".toList :=
    .between ['2'] ['x'] (by decide : Blanks [' ']) (by decide : Blanks ['\t', '\u00a0']) (by decide)
      (by decide)
  have relaid : Relaid a b :=
    ⟨["1\r", " ", "2 x"], ["1", ""] ++ ["2\t\u00a0x"], .closed (by decide),
      .unclosed (by decide) (by decide) (by decide), .cons row (.cons separator (.cons header .nil))⟩
  exact ⟨.inr relaid, readAll_respaced (.inr relaid) _, by decide +kernel, by decide +kernel⟩

end Reader

end GameOfLife

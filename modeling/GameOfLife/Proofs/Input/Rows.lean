import GameOfLife.Input.Row
import GameOfLife.Proofs.Text.Spacing
import Mathlib.Data.List.Forall2

/-!
What a line of input denotes. Each word stands for at most one cell; a line whose words all stand for
cells denotes the row of these cells at whatever line number it is parsed, and every other line is
refused at every line number.
-/

set_option autoImplicit false
set_option relaxedAutoImplicit false

namespace GameOfLife

def Cell.ofWord? (word : String) : Option Cell :=
  (Text.integer? word).bind Cell.ofInt?

def Malformed (text : String) : Prop :=
  ∃ word ∈ Text.words text, Cell.ofWord? word = none

/-- A line denotes a row if it is parsed as that row, whatever its number. -/
def Denotes (text : String) (row : List Cell) : Prop :=
  ∀ line, parseRow text line = .ok row

private theorem parseCell_eq_ok_iff {line : Nat} {word : String} {cell : Cell} :
    parseCell line word = .ok cell ↔ Cell.ofWord? word = some cell := by
  unfold parseCell Cell.ofWord?
  cases Text.integer? word with
  | none => simp
  | some value => cases h : Cell.ofInt? value <;> simp [h]

private theorem mapM_parseCell_eq_ok_iff {line : Nat} {words : List String} {row : List Cell} :
    words.mapM (parseCell line) = .ok row ↔
      List.Forall₂ (fun word cell => Cell.ofWord? word = some cell) words row := by
  induction words generalizing row with
  | nil =>
    constructor
    · intro h
      cases h
      exact .nil
    · intro h
      cases h
      rfl
  | cons word words ih =>
    rw [List.mapM_cons, List.forall₂_cons_left_iff]
    constructor
    · intro h
      cases first : parseCell line word with
      | error e => simp [first, bind, Except.bind] at h
      | ok cell =>
        cases others : words.mapM (parseCell line) with
        | error e => simp [first, others, bind, Except.bind] at h
        | ok cells =>
          simp only [first, others, bind, Except.bind, pure, Except.pure, Except.ok.injEq] at h
          exact ⟨cell, cells, parseCell_eq_ok_iff.1 first, ih.1 others, h.symm⟩
    · rintro ⟨cell, cells, first, others, rfl⟩
      rw [parseCell_eq_ok_iff.2 first, ih.2 others]
      rfl

theorem parseRow_eq_ok_iff {text : String} {line : Nat} {row : List Cell} :
    parseRow text line = .ok row ↔
      List.Forall₂ (fun word cell => Cell.ofWord? word = some cell) (Text.words text) row :=
  mapM_parseCell_eq_ok_iff

private theorem exists_of_mapM_parseCell_eq_error {line : Nat} {words : List String} {e : ReadError}
    (h : words.mapM (parseCell line) = .error e) :
    ∃ before word after, words = before ++ word :: after ∧
      (∀ earlier ∈ before, ∃ cell, Cell.ofWord? earlier = some cell) ∧
      parseCell line word = .error e := by
  induction words with
  | nil => exact nomatch h
  | cons word words ih =>
    rw [List.mapM_cons] at h
    cases first : parseCell line word with
    | error e' =>
      simp only [first, bind, Except.bind, Except.error.injEq] at h
      subst h
      exact ⟨[], word, words, rfl, by simp, first⟩
    | ok cell =>
      cases others : words.mapM (parseCell line) with
      | error e' =>
        simp only [first, others, bind, Except.bind, Except.error.injEq] at h
        subst h
        obtain ⟨before, refused, after, rfl, cells, failed⟩ := ih others
        refine ⟨word :: before, refused, after, rfl, ?_, failed⟩
        simp only [List.mem_cons, forall_eq_or_imp]
        exact ⟨⟨cell, parseCell_eq_ok_iff.1 first⟩, cells⟩
      | ok cells => simp [first, others, bind, Except.bind, pure, Except.pure] at h

theorem exists_of_parseRow_eq_error {text : String} {line : Nat} {e : ReadError}
    (h : parseRow text line = .error e) :
    ∃ before word after, Text.words text = before ++ word :: after ∧
      (∀ earlier ∈ before, ∃ cell, Cell.ofWord? earlier = some cell) ∧
      parseCell line word = .error e :=
  exists_of_mapM_parseCell_eq_error h

theorem parseRow_eq_error {text word : String} {line : Nat} {before after : List String} {e : ReadError}
    (split : Text.words text = before ++ word :: after)
    (cells : ∀ earlier ∈ before, ∃ cell, Cell.ofWord? earlier = some cell)
    (refused : parseCell line word = .error e) : parseRow text line = .error e := by
  rw [parseRow, split]
  clear split
  induction before with
  | nil =>
    rw [List.nil_append, List.mapM_cons, refused]
    rfl
  | cons earlier before ih =>
    obtain ⟨⟨cell, first⟩, others⟩ := List.forall_mem_cons.1 cells
    rw [List.cons_append, List.mapM_cons, parseCell_eq_ok_iff.2 first, ih others]
    rfl

theorem denotes_iff {text : String} {row : List Cell} :
    Denotes text row ↔
      List.Forall₂ (fun word cell => Cell.ofWord? word = some cell) (Text.words text) row :=
  ⟨fun h => parseRow_eq_ok_iff.1 (h 0), fun h _ => parseRow_eq_ok_iff.2 h⟩

private theorem denotes_of_parseRow {text : String} {line : Nat} {row : List Cell}
    (h : parseRow text line = .ok row) : Denotes text row :=
  denotes_iff.2 (parseRow_eq_ok_iff.1 h)

theorem not_malformed_of_denotes {text : String} {row : List Cell} (h : Denotes text row) :
    ¬ Malformed text := by
  rintro ⟨word, member, none⟩
  obtain ⟨i, bound, rfl⟩ := List.mem_iff_getElem.1 member
  have cells := denotes_iff.1 h
  have some := cells.get bound (by rw [← cells.length_eq]; exact bound)
  rw [List.get_eq_getElem, none] at some
  exact nomatch some

private theorem exists_forall₂ {α β : Type} {related : α → β → Prop} {as : List α}
    (h : ∀ a ∈ as, ∃ b, related a b) : ∃ bs, List.Forall₂ related as bs := by
  induction as with
  | nil => exact ⟨[], .nil⟩
  | cons a as ih =>
    simp only [List.mem_cons, forall_eq_or_imp] at h
    obtain ⟨b, first⟩ := h.1
    obtain ⟨bs, others⟩ := ih h.2
    exact ⟨b :: bs, .cons first others⟩

theorem exists_denotes {text : String} (h : ¬ Malformed text) : ∃ row, Denotes text row := by
  have cells : ∀ word ∈ Text.words text, ∃ cell, Cell.ofWord? word = some cell := by
    intro word member
    exact Option.ne_none_iff_exists'.1 fun none => h ⟨word, member, none⟩
  obtain ⟨row, denoted⟩ := exists_forall₂ cells
  exact ⟨row, denotes_iff.2 denoted⟩

theorem exists_forall₂_denotes {texts : List String} (h : ∀ text ∈ texts, ¬ Malformed text) :
    ∃ rows, List.Forall₂ Denotes texts rows :=
  exists_forall₂ fun text member => exists_denotes (h text member)

theorem length_words_of_denotes {text : String} {row : List Cell} (h : Denotes text row) :
    (Text.words text).length = row.length :=
  (denotes_iff.1 h).length_eq

theorem length_pos_of_denotes {text : String} {row : List Cell} (h : Denotes text row)
    (visible : Text.allBlank text = false) : 0 < row.length := by
  rw [← length_words_of_denotes h]
  exact List.length_pos_iff.2 (Text.words_ne_nil visible)

theorem exists_error_of_malformed {text : String} (h : Malformed text) (line : Nat) :
    ∃ e, parseRow text line = .error e := by
  cases parsed : parseRow text line with
  | error e => exact ⟨e, rfl⟩
  | ok row => exact absurd h (not_malformed_of_denotes (denotes_of_parseRow parsed))

end GameOfLife

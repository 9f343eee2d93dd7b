import GameOfLife.Input.Reader
import GameOfLife.Proofs.Input.Lines
import GameOfLife.Proofs.Input.Rows

/-!
Pieces of input by what they hold, and reads by what they take. A piece is blank, or it holds a row, or
it is neither; a read takes pieces from the front of the input and counts each of them as a line, as
long as all of them are lines of text.
-/

set_option autoImplicit false
set_option relaxedAutoImplicit false

namespace GameOfLife

namespace Piece

/-- A piece of input holds a row if it is a line that is not blank and denotes the row. -/
def Holds (piece : Piece) (row : List Cell) : Prop :=
  ∃ text, piece.text = .ok text ∧ Text.allBlank text = false ∧ Denotes text row

def Blank (piece : Piece) : Prop :=
  ∃ text, piece.text = .ok text ∧ Text.allBlank text = true

theorem holds_of_denotes {body : List Piece} {texts : List String} {rows : List (List Cell)}
    (readable : body.map Piece.text = texts.map .ok)
    (visible : ∀ text ∈ texts, Text.allBlank text = false)
    (denoted : List.Forall₂ Denotes texts rows) : List.Forall₂ Holds body rows := by
  -- Pieces, texts and rows run out together.
  induction denoted generalizing body with
  | nil =>
    have none : body = [] := by simpa using readable
    subst none
    exact .nil
  | @cons text row texts rows denotes _ ih =>
    cases body with
    | nil => simp at readable
    | cons piece body =>
      simp only [List.map_cons, List.cons.injEq] at readable
      simp only [List.mem_cons, forall_eq_or_imp] at visible
      exact .cons ⟨text, readable.1, visible.1, denotes⟩ (ih readable.2 visible.2)

theorem exists_of_readable {pending : List Piece} {lines : List String}
    (readable : pending.map Piece.text = lines.map .ok) {i : Nat} {text : String}
    (present : lines[i]? = some text) :
    ∃ piece, piece.text = .ok text ∧
      pending = pending.take i ++ piece :: pending.drop (i + 1) := by
  have answer : (pending.map Piece.text)[i]? = some (.ok text) := by
    rw [readable, List.getElem?_map, present]
    rfl
  rw [List.getElem?_map, Option.map_eq_some_iff] at answer
  obtain ⟨piece, place, found⟩ := answer
  obtain ⟨bound, value⟩ := List.getElem?_eq_some_iff.1 place
  refine ⟨piece, found, ?_⟩
  rw [← value, ← List.drop_eq_getElem_cons bound, List.take_append_drop]

end Piece

/-- A read in a layout gives a result and takes a number of lines, each of which it counts. -/
def Reader.Yields (reader : Reader) (layout : Layout) (result : Except ReadError Grid) (taken : Nat) :
    Prop :=
  reader.read layout = (result, ⟨reader.pending.drop taken, reader.line + taken⟩)

theorem Reader.readable_ofBytes (text : String) :
    (ofBytes (Text.bytes text)).pending.map Piece.text = (Text.lines text).map .ok :=
  map_text_pieces_bytes text

theorem Reader.length_pending {reader : Reader} {lines : List String}
    (readable : reader.pending.map Piece.text = lines.map .ok) :
    reader.pending.length = lines.length := by
  simpa using congrArg List.length readable

theorem Reader.readAll_cons (layout : Layout) (layouts : List Layout) (reader : Reader) :
    readAll (layout :: layouts) reader =
      ((reader.read layout).1 :: (readAll layouts (reader.read layout).2).1,
        (readAll layouts (reader.read layout).2).2) := rfl

theorem Reader.readAll_append (first second : List Layout) (reader : Reader) :
    readAll (first ++ second) reader =
      ((readAll first reader).1 ++ (readAll second (readAll first reader).2).1,
        (readAll second (readAll first reader).2).2) := by
  induction first generalizing reader with
  | nil => rfl
  | cons layout first ih => simp [readAll_cons, ih]

theorem Reader.length_readAll (layouts : List Layout) (reader : Reader) :
    (readAll layouts reader).1.length = layouts.length := by
  induction layouts generalizing reader with
  | nil => rfl
  | cons layout layouts ih => simp [readAll_cons, ih]

end GameOfLife

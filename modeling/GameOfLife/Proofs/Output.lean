import GameOfLife.Drawing
import GameOfLife.Output
import Mathlib.Data.List.Basic

/-!
Drawing where there is not enough room. A drawing is written piece by piece, but where one piece ends and the
next begins makes no difference: on a buffer of fixed size all pieces together are one write. So what is in the
buffer is always the beginning of what there would be without a limit, up to the last byte of room, even if the
cut falls into an escape sequence or into a character.
-/

set_option autoImplicit false
set_option relaxedAutoImplicit false

namespace GameOfLife

namespace Grid

def pieces (g : Grid) (style : Style) : Option String → List String
  | none => g.draw style
  | some label => g.drawLabeled style label

def writeUnder {m : Type → Type} [Monad m] (put : String → m Unit) (style : Style) (g : Grid) :
    Option String → m Unit
  | none => g.write put style
  | some label => g.writeLabeled put style label

end Grid

section Loops

variable {m : Type → Type} [Monad m] [LawfulMonad m] (put : String → m Unit) (style : Style)

private theorem writeCell_eq_forM (cell : Cell) : style.writeCell put cell = forM (style.cell cell) put := by
  cases style <;> simp [Style.writeCell, Style.cell]

private theorem forM_flatMap {α : Type} (pieces : α → List String) (items : List α) :
    forM (items.flatMap pieces) put = forM items fun item => forM (pieces item) put := by
  induction items with
  | nil => rfl
  | cons item items ih => rw [List.flatMap_cons, List.forM_append, List.forM_cons, ih]

private theorem writeRow_eq_forM (row : List Cell) :
    (do forM row (style.writeCell put); put "\n") = forM (style.row row) put := by
  have cells : style.writeCell put = fun cell => forM (style.cell cell) put :=
    funext (writeCell_eq_forM put style)
  rw [Style.row, List.forM_append, forM_flatMap, List.forM_cons, List.forM_nil, bind_pure_unit, cells]

private theorem Grid.write_eq_forM (g : Grid) : g.write put style = forM (g.draw style) put := by
  rw [write, draw, forM_flatMap, List.forM_eq_forM]
  simp only [← writeRow_eq_forM, List.forM_eq_forM]

/-- The loops write the pieces of a drawing one after another. -/
theorem Grid.writeUnder_eq_forM (g : Grid) (label : Option String) :
    g.writeUnder put style label = forM (g.pieces style label) put := by
  cases label with
  | none => exact g.write_eq_forM put style
  | some label => simp only [writeUnder, writeLabeled, pieces, drawLabeled, write_eq_forM, List.forM_cons]

end Loops

private theorem bytes_join (pieces : List String) :
    Text.bytes (String.join pieces) = pieces.flatMap Text.bytes := by
  induction pieces with
  | nil => rfl
  | cons piece pieces ih => rw [String.join_cons, Text.bytes_append, ih, List.flatMap_cons]

namespace Unlimited

private theorem run_forM_put (pieces : List String) (written : List UInt8) :
    (forM pieces put).run written = pure ((), written ++ pieces.flatMap Text.bytes) := by
  induction pieces generalizing written with
  | nil => simp
  | cons piece pieces ih =>
    have first : (put piece).run written = pure ((), written ++ Text.bytes piece) := rfl
    rw [List.forM_cons, StateT.run_bind, first, pure_bind, ih, List.flatMap_cons, List.append_assoc]

end Unlimited

namespace Buffer

section Pieces

variable {buffer : Buffer} {first second : List UInt8} {pieces : List String} {limit : Nat}

private theorem append_append (written : Array UInt8) (first second : List UInt8) :
    written ++ first ++ second = written ++ (first ++ second) := by
  apply Array.ext'
  simp

private theorem write_of_fits (fits : first.length ≤ buffer.room) :
    buffer.write first = (.ok (), ⟨buffer.written ++ first, buffer.room - first.length⟩) :=
  if_pos fits

private theorem write_of_not_fits (tooLong : buffer.room < first.length) :
    buffer.write first = (.error .bufferFull, ⟨buffer.written ++ first.take buffer.room, 0⟩) :=
  if_neg (Nat.not_le.2 tooLong)

private theorem write_nil (buffer : Buffer) : buffer.write [] = (.ok (), buffer) := by
  rw [write_of_fits (Nat.zero_le _)]
  simp

private theorem write_append_of_fits (fits : first.length ≤ buffer.room) :
    buffer.write (first ++ second) =
      (Buffer.mk (buffer.written ++ first) (buffer.room - first.length)).write second := by
  by_cases both : first.length + second.length ≤ buffer.room
  · have whole : (first ++ second).length ≤ buffer.room := by rwa [List.length_append]
    have left : second.length ≤ buffer.room - first.length := by omega
    rw [write_of_fits whole, write_of_fits left, List.length_append, Nat.sub_sub, append_append]
  · have whole : buffer.room < (first ++ second).length := by
      rw [List.length_append]
      omega
    have left : buffer.room - first.length < second.length := by omega
    rw [write_of_not_fits whole, write_of_not_fits left, List.take_append, List.take_of_length_le fits,
      append_append]

private theorem write_append_of_not_fits (tooLong : buffer.room < first.length) :
    buffer.write (first ++ second) = buffer.write first := by
  have whole : buffer.room < (first ++ second).length := by
    rw [List.length_append]
    omega
  rw [write_of_not_fits whole, write_of_not_fits tooLong, List.take_append_of_le_length (Nat.le_of_lt tooLong)]

private theorem writeAll_eq_write (buffer : Buffer) (pieces : List String) :
    buffer.writeAll pieces = buffer.write (pieces.flatMap Text.bytes) := by
  induction pieces generalizing buffer with
  | nil => exact (write_nil buffer).symm
  | cons piece pieces ih =>
    rw [writeAll, List.flatMap_cons]
    by_cases fits : (Text.bytes piece).length ≤ buffer.room
    · rw [write_append_of_fits fits, write_of_fits fits]
      exact ih _
    · rw [write_append_of_not_fits (Nat.not_le.1 fits), write_of_not_fits (Nat.not_le.1 fits)]

/-- A list of pieces is cut at the limit, whatever the pieces are. -/
theorem writeAll_ofSize (limit : Nat) (pieces : List String) :
    let whole := pieces.flatMap Text.bytes
    (ofSize limit).writeAll pieces =
      (if whole.length ≤ limit then .ok () else .error .bufferFull,
        ⟨(whole.take limit).toArray, limit - whole.length⟩) := by
  intro whole
  rw [writeAll_eq_write]
  by_cases fits : whole.length ≤ limit
  · rw [write_of_fits fits, if_pos fits, List.take_of_length_le fits]
    simp [ofSize, whole]
  · rw [write_of_not_fits (Nat.not_le.1 fits), if_neg fits,
      Nat.sub_eq_zero_of_le (Nat.le_of_lt (Nat.not_le.1 fits))]
    simp [ofSize, whole]

private theorem exists_cut (cut : limit < (pieces.flatMap Text.bytes).length) :
    ∃ before piece after inside, pieces = before ++ piece :: after ∧
      inside < (Text.bytes piece).length ∧
      (pieces.flatMap Text.bytes).take limit =
        before.flatMap Text.bytes ++ (Text.bytes piece).take inside := by
  induction pieces generalizing limit with
  | nil => exact absurd cut (Nat.not_lt_zero _)
  | cons piece pieces ih =>
    rw [List.flatMap_cons, List.length_append] at cut
    by_cases here : limit < (Text.bytes piece).length
    · refine ⟨[], piece, pieces, limit, rfl, here, ?_⟩
      rw [List.flatMap_cons, List.take_append_of_le_length (Nat.le_of_lt here), List.flatMap_nil,
        List.nil_append]
    · obtain ⟨before, later, after, inside, rfl, within, taken⟩ :=
        ih (by omega : limit - (Text.bytes piece).length < (pieces.flatMap Text.bytes).length)
      refine ⟨piece :: before, later, after, inside, rfl, within, ?_⟩
      rw [List.flatMap_cons, List.flatMap_cons, List.take_append, taken,
        List.take_of_length_le (Nat.not_lt.1 here), List.append_assoc]

end Pieces

private theorem run_forM_put (pieces : List String) (buffer : Buffer) :
    (forM pieces put).run.run buffer = pure (buffer.writeAll pieces) := by
  induction pieces generalizing buffer with
  | nil => rfl
  | cons piece pieces ih =>
    obtain ⟨result, later, wrote⟩ : ∃ result later, buffer.write (Text.bytes piece) = (result, later) :=
      ⟨_, _, rfl⟩
    have first : (put piece).run.run buffer = pure (result, later) := wrote
    rw [List.forM_cons, ExceptT.run_bind, StateT.run_bind, first, pure_bind, writeAll, wrote]
    cases result with
    | error e => rfl
    | ok done => exact ih later

end Buffer

namespace Grid

open Buffer

/-- A drawing in full: all that the loops write where there is no limit. -/
def fullDrawing (g : Grid) (style : Style) (label : Option String) : List UInt8 :=
  ((g.writeUnder Unlimited.put style label).run []).2

def limitedDrawing (g : Grid) (style : Style) (label : Option String) (limit : Nat) :
    Except WriteError Unit × Buffer :=
  (g.writeUnder Buffer.put style label).run.run (ofSize limit)

private theorem fullDrawing_eq_flatMap (g : Grid) (style : Style) (label : Option String) :
    g.fullDrawing style label = (g.pieces style label).flatMap Text.bytes := by
  rw [fullDrawing, writeUnder_eq_forM, Unlimited.run_forM_put]
  rfl

private theorem limitedDrawing_eq_writeAll (g : Grid) (style : Style) (label : Option String) (limit : Nat) :
    g.limitedDrawing style label limit = (ofSize limit).writeAll (g.pieces style label) := by
  rw [limitedDrawing, writeUnder_eq_forM, Buffer.run_forM_put]
  rfl

/-- A drawing on a buffer of limited size. It is written in full if there is room for all its bytes, and otherwise
fails with exactly as many of them written as there is room for: all pieces before one that did not fit, and the
beginning of that one. -/
theorem limitedDrawing_cut (g : Grid) (style : Style) (label : Option String) (limit : Nat) :
    let pieces := g.pieces style label
    let whole := g.fullDrawing style label
    let outcome := g.limitedDrawing style label limit
    whole = Text.bytes (String.join pieces) ∧
    outcome = (ofSize limit).writeAll pieces ∧
    (outcome.1 = .ok () ↔ whole.length ≤ limit) ∧
    (whole.length ≤ limit → outcome.2.written.toList = whole) ∧
    (limit < whole.length →
      (∃ e, outcome.1 = .error e ∧ e.message = "failed to write whole buffer") ∧
      outcome.2.written.toList = whole.take limit ∧
      ∃ before piece after inside, pieces = before ++ piece :: after ∧
        inside < (Text.bytes piece).length ∧
        outcome.2.written.toList = before.flatMap Text.bytes ++ (Text.bytes piece).take inside) := by
  intro pieces whole outcome
  have flat : whole = pieces.flatMap Text.bytes := g.fullDrawing_eq_flatMap style label
  have listed : outcome = (ofSize limit).writeAll pieces := g.limitedDrawing_eq_writeAll style label limit
  have cut : outcome = (if whole.length ≤ limit then .ok () else .error .bufferFull,
      ⟨(whole.take limit).toArray, limit - whole.length⟩) := by
    rw [listed, writeAll_ofSize, flat]
  have written : outcome.2.written.toList = whole.take limit := by rw [cut]
  refine ⟨by rw [flat, bytes_join], listed, ?_, ?_, ?_⟩
  · rw [cut]
    split
    · next fits => exact iff_of_true rfl fits
    · next tooLong => exact iff_of_false (by simp) tooLong
  · intro fits
    rw [written, List.take_of_length_le fits]
  · intro tooLong
    refine ⟨⟨.bufferFull, ?_, rfl⟩, written, ?_⟩
    · rw [cut, if_neg (Nat.not_le.2 tooLong)]
    · rw [written, flat]
      exact exists_cut (flat ▸ tooLong)

theorem limitedDrawing_cut_brokenLabel :
    let g := ofFn 1 1 (by decide) (by decide) fun _ _ => .alive
    let outcome := g.limitedDrawing .color (some "é") 1
    (g.fullDrawing .color (some "é")).length = 21 ∧ outcome.1 = .error .bufferFull ∧
      outcome.2.written.toList = [0xc3] := by
  intro g outcome
  have length : (g.fullDrawing .color (some "é")).length = 21 := by decide
  obtain ⟨-, -, -, -, fails⟩ := limitedDrawing_cut g .color (some "é") 1
  obtain ⟨⟨e, failed, -⟩, written, -⟩ := fails (by rw [length]; decide)
  have first : (g.fullDrawing .color (some "é")).take 1 = [0xc3] := by decide
  exact ⟨length, failed, written.trans first⟩

end Grid

end GameOfLife

import GameOfLife.Proofs.Input.Faults

/-!
Reads over data that come in two parts. Reads that take exactly the first part, with something behind
it, know nothing of what is behind it: they give the same results whatever follows, and the reads after
them go on like those of a fresh reader over the second part, with the lines of the first one added to
their numbers.
-/

set_option autoImplicit false
set_option relaxedAutoImplicit false

namespace GameOfLife

open Piece (newline)

private theorem Piece.arrivals_ne_nil_of_mem {stream : List Arrival} {piece : Piece}
    (h : piece ∈ pieces stream) : piece.arrivals ≠ [] := by
  induction stream generalizing piece with
  | nil => simp [pieces] at h
  | cons arrival stream ih =>
    have attached : piece ∈ attach arrival (pieces stream) := h
    cases arrival with
    | byte value =>
      simp only [attach] at attached
      split at attached
      · rcases List.mem_cons.1 attached with rfl | member
        · simp [arrivals]
        · exact ih member
      · -- The byte is put in front of the first piece, if there is one.
        cases others : pieces stream with
        | nil =>
          rw [others, prepend, List.mem_singleton] at attached
          simp [attached, arrivals]
        | cons first rest =>
          rw [others] at attached ih
          cases first <;>
          · rcases List.mem_cons.1 attached with rfl | member
            · simp [arrivals]
            · exact ih (List.mem_cons_of_mem _ member)
    | fault fault =>
      simp only [attach] at attached
      split at attached
      · exact ih attached
      · rcases List.mem_cons.1 attached with rfl | member
        · simp [arrivals]
        · exact ih member

private theorem eq_nil_of_flatMap_arrivals {more others : List Piece}
    (nonempty : ∀ piece ∈ more, piece.arrivals ≠ [])
    (h : (more ++ others).flatMap Piece.arrivals = others.flatMap Piece.arrivals) : more = [] := by
  rw [List.flatMap_append, List.append_left_eq_self] at h
  cases more with
  | nil => rfl
  | cons piece more =>
    rw [List.flatMap_cons] at h
    exact absurd (List.append_eq_nil_iff.1 h).1 (nonempty piece List.mem_cons_self)

private theorem Piece.eq_of_flatMap_arrivals {stream : List Arrival} {front rest taken left : List Piece}
    (cut : pieces stream = front ++ rest) (split : pieces stream = taken ++ left)
    (same : left.flatMap arrivals = rest.flatMap arrivals) : taken = front ∧ left = rest := by
  have nonempty : ∀ piece ∈ front ++ rest, piece.arrivals ≠ [] := by
    intro piece member
    rw [← cut] at member
    exact arrivals_ne_nil_of_mem member
  rcases List.append_eq_append_iff.1 (cut.symm.trans split) with ⟨more, rfl, rfl⟩ | ⟨more, rfl, rfl⟩
  · have none : more = [] :=
      eq_nil_of_flatMap_arrivals (fun piece member => nonempty piece (by simp [member])) same.symm
    simp [none]
  · have none : more = [] :=
      eq_nil_of_flatMap_arrivals (fun piece member => nonempty piece (by simp [member])) same
    simp [none]

namespace Reader

def unread (reader : Reader) : List Arrival :=
  reader.pending.flatMap Piece.arrivals

/-- Whether reads on a fresh reader take exactly some data and leave what is behind it. -/
def Consume (layouts : List Layout) (data behind : List UInt8) : Prop :=
  (readAll layouts (ofBytes (data ++ behind))).2.unread = behind.map .byte

private theorem unread_ofBytes (data : List UInt8) : (ofBytes data).unread = data.map .byte := by
  rw [unread, ofBytes, ofStream, arrivals_pieces]
  simp [withoutInterruptions]

private theorem confined_or_finished (layouts : List Layout) (reader : Reader) :
    (∃ results taken left, reader.pending = taken ++ left ∧
      Confined layouts ⟨taken, reader.line⟩ results ⟨[], reader.line + texts taken⟩) ∨
    (readAll layouts reader).2.pending = [] := by
  induction layouts generalizing reader with
  | nil => exact .inl ⟨[], [], reader.pending, rfl, fun rest => rfl⟩
  | cons layout layouts ih =>
    obtain ⟨pending, line⟩ := reader
    cases reach_read layout ⟨pending, line⟩ with
    | within result taken left split same =>
      obtain rfl : pending = taken ++ left := split
      rcases ih ⟨left, line + texts taken⟩ with ⟨results, taken', left', split', confined⟩ | finished
      · obtain rfl : left = taken' ++ left' := split'
        refine .inl ⟨result :: results, taken ++ taken', left', (List.append_assoc ..).symm, ?_⟩
        intro rest
        rw [followedBy, List.append_assoc, readAll_cons, same, texts_append, ← Nat.add_assoc]
        exact congrArg (fun run => (result :: run.1, run.2)) (confined rest)
      · right
        rw [readAll_cons, same]
        exact finished
    | beyond result atEnd _ =>
      -- The reads behind this one find the end of the input.
      right
      rw [readAll_cons, atEnd]
      rcases ih ⟨[], line + texts pending⟩ with ⟨results, taken, left, split, confined⟩ | finished
      · obtain ⟨rfl, rfl⟩ := List.append_eq_nil_iff.1 split.symm
        exact congrArg (fun run => run.2.pending) (confined [])
      · exact finished

private theorem confined_of_consume {layouts : List Layout} {data behind : List UInt8}
    (ended : data = [] ∨ data.getLast? = some newline) (more : behind ≠ [])
    (consumed : Consume layouts data behind) :
    ∃ results, Confined layouts (ofTerminated data) results ⟨[], textLines data⟩ := by
  have cut : pieces ((data ++ behind).map .byte) =
      (ofTerminated data).pending ++ pieces (behind.map .byte) := by
    rw [List.map_append, pieces_append, openTail_eq_nil ended]
    rfl
  rcases confined_or_finished layouts (ofBytes (data ++ behind)) with
    ⟨results, taken, left, split, confined⟩ | finished
  · have split : pieces ((data ++ behind).map .byte) = taken ++ left := split
    have confined : Confined layouts ⟨taken, 0⟩ results ⟨[], texts taken⟩ := by
      have counted : (ofBytes (data ++ behind)).line + texts taken = texts taken := Nat.zero_add _
      rwa [counted] at confined
    have reads : readAll layouts (ofBytes (data ++ behind)) = (results, ⟨left, texts taken⟩) := by
      rw [ofBytes, ofStream, split]
      exact confined left
    have same : left.flatMap Piece.arrivals = (pieces (behind.map .byte)).flatMap Piece.arrivals := by
      rw [Consume, reads] at consumed
      exact consumed.trans (unread_ofBytes behind).symm
    obtain ⟨rfl, -⟩ := Piece.eq_of_flatMap_arrivals cut split same
    rw [ofTerminated, texts_terminatedLines] at confined
    exact ⟨results, confined⟩
  · rw [Consume, unread, finished] at consumed
    simp [more] at consumed

/-- Reads that take exactly some data behind which there is more depend on nothing but the data, and the
reads after them go on like those of a fresh reader over what is behind it, with the lines of text in the
data added to their numbers. -/
theorem resultsOf_of_consume {data behind : List UInt8} {first : List Layout}
    (ended : data = [] ∨ data.getLast? = some newline) (more : behind ≠ [])
    (consumed : Consume first data behind) :
    (∀ other, resultsOf first ((data ++ other).map .byte) =
        resultsOf first ((data ++ behind).map .byte) ∧ Consume first data other) ∧
      ∀ second, resultsOf (first ++ second) ((data ++ behind).map .byte) =
        resultsOf first ((data ++ behind).map .byte) ++
          (resultsOf second (behind.map .byte)).map (Except.mapError (.later (textLines data))) := by
  obtain ⟨results, confined⟩ := confined_of_consume ended more consumed
  have reads : ∀ other, readAll first (ofBytes (data ++ other)) =
      (results, ⟨pieces (other.map .byte), textLines data⟩) := by
    intro other
    rw [ofBytes, List.map_append, ofStream_append, openTail_eq_nil ended]
    exact confined _
  have given : ∀ other, resultsOf first ((data ++ other).map .byte) = results := fun other =>
    congrArg Prod.fst (reads other)
  refine ⟨?_, ?_⟩
  · intro other
    refine ⟨by rw [given, given], ?_⟩
    rw [Consume, reads]
    exact unread_ofBytes other
  · intro second
    have fresh := readAll_later (textLines data) second (ofBytes behind)
    have start : (ofBytes behind).later (textLines data) =
        ⟨pieces (behind.map .byte), textLines data⟩ := by
      simp only [later, ofBytes, ofStream, Nat.zero_add]
    rw [start] at fresh
    rw [given, resultsOf, readAll_append, ← ofBytes, reads, fresh]
    rfl

/-- The first part ends in a malformed row and a line that is no text, so that it counts for two lines
only, and the row behind it is wrong as well. -/
theorem resultsOf_of_consume_errors :
    let data := Text.bytes "2 2\n1 x\n" ++ [0xFF, newline]
    let behind := Text.bytes "1 7\n"
    let after : List (Except ReadError Grid) :=
      (resultsOf [.plain] (behind.map .byte)).map (Except.mapError (.later (textLines data)))
    ((data = [] ∨ data.getLast? = some newline) ∧ behind ≠ [] ∧
      Consume [.sized, .plain] data behind) ∧
      resultsOf [.sized, .plain, .plain] ((data ++ behind).map .byte) =
        resultsOf [.sized, .plain] ((data ++ behind).map .byte) ++ after ∧
      after = [.error (.notBinary 3 7)] := by
  intro data behind after
  have ended : data = [] ∨ data.getLast? = some newline := .inr (by simp [data])
  have more : behind ≠ [] := by decide
  have consumed : Consume [.sized, .plain] data behind := by
    unfold Consume
    decide +kernel
  exact ⟨⟨ended, more, consumed⟩, (resultsOf_of_consume ended more consumed).2 [.plain],
    by decide +kernel⟩

end Reader

end GameOfLife

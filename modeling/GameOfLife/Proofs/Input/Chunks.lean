import GameOfLife.Proofs.Input.Progress
import Mathlib.Logic.Relation

/-!
Input in chunks. A source hands out some bytes at a time, or a fault. A request for a line goes through as
many chunks as it needs and repeats interrupted attempts; it puts back what is behind the newline, and a
fault makes it forget what it has. What it answers depends on the bytes and faults that arrive only: the
chunks can be joined, split anywhere, and interrupted, with the same answers to all requests.
-/

set_option autoImplicit false
set_option relaxedAutoImplicit false

namespace GameOfLife

open Piece (newline)

/-- What a source hands out at a time: bytes, or a fault. A source hands out at least one byte, since none at all
is the end of the input: `bytes []` stands for a chunk of which every byte has been taken, and nothing else. -/
inductive Chunk where
  | bytes (held : List UInt8)
  | fault (cause : Fault)
  deriving DecidableEq

namespace Chunk

def arrivals : Chunk → List Arrival
  | bytes held => held.map .byte
  | fault cause => [.fault cause]

def delivered (chunks : List Chunk) : List Arrival :=
  chunks.flatMap arrivals

section Requests

/-- A request for a line that has taken some bytes already: what it takes in the end, or nothing at the end
of the source, and the chunks that it leaves. -/
def request (taken : List UInt8) : List Chunk → Option Piece × List Chunk
  | [] => (if taken = [] then none else some (.line taken), [])
  | .fault cause :: rest =>
    if cause.kind = .interrupted then request taken rest else (some (.broken taken cause), rest)
  | .bytes held :: rest =>
    match held.dropWhile (· != newline) with
    | [] => request (taken ++ held) rest
    | ending :: behind =>
      (some (.line (taken ++ held.takeWhile (· != newline) ++ [ending])), .bytes behind :: rest)

variable {taken : List UInt8}

private theorem newline_notMem_takeWhile (held : List UInt8) : newline ∉ held.takeWhile (· != newline) := by
  intro member
  have different := List.all_eq_true.1 List.all_takeWhile newline member
  simp at different

private theorem newline_notMem_of_dropWhile {held : List UInt8} (h : held.dropWhile (· != newline) = []) :
    newline ∉ held := by
  intro member
  have different := List.dropWhile_eq_nil_iff.1 h newline member
  simp at different

private theorem eq_append_of_dropWhile {held behind : List UInt8} {ending : UInt8}
    (h : held.dropWhile (· != newline) = ending :: behind) :
    ending = newline ∧ held = held.takeWhile (· != newline) ++ newline :: behind := by
  have found : ending = newline := by
    have stop := List.head?_dropWhile_not (· != newline) held
    rw [h] at stop
    simpa using stop
  have whole := List.takeWhile_append_dropWhile (p := (· != newline)) (l := held)
  rw [h, found] at whole
  exact ⟨found, whole.symm⟩

private theorem pieces_append_fault (unended : newline ∉ taken) {cause : Fault}
    (hard : cause.kind ≠ .interrupted) (stream : List Arrival) :
    pieces (taken.map .byte ++ .fault cause :: stream) = .broken taken cause :: pieces stream := by
  have struck : pieces (.fault cause :: stream) = .broken [] cause :: pieces stream := by
    simp [pieces, Piece.attach, hard]
  rw [pieces_append_of_line unended, struck, foldr_prepend_broken, List.append_nil]

private theorem pieces_append_interrupted (unended : newline ∉ taken) {cause : Fault}
    (soft : cause.kind = .interrupted) (stream : List Arrival) :
    pieces (taken.map .byte ++ .fault cause :: stream) = pieces (taken.map .byte ++ stream) := by
  have unseen : pieces (.fault cause :: stream) = pieces stream := by
    simp [pieces, Piece.attach, soft]
  rw [pieces_append_of_line unended, pieces_append_of_line unended, unseen]

private theorem request_takes (chunks : List Chunk) (unended : newline ∉ taken) :
    (request taken chunks).1.toList ++ pieces (delivered (request taken chunks).2) =
      pieces (taken.map .byte ++ delivered chunks) := by
  induction chunks generalizing taken with
  | nil =>
    rw [request, pieces_append_of_line unended]
    split
    · next none => simp [none, delivered, pieces]
    · next some => simp [delivered, pieces, foldr_prepend_nil some]
  | cons chunk chunks ih =>
    cases chunk with
    | fault cause =>
      have first : delivered (.fault cause :: chunks) = .fault cause :: delivered chunks := rfl
      rw [request, first]
      split
      · next soft => rw [ih unended, pieces_append_interrupted unended soft]
      · next hard => rw [pieces_append_fault unended hard]; rfl
    | bytes held =>
      have first : delivered (.bytes held :: chunks) = held.map .byte ++ delivered chunks := rfl
      rw [request, first]
      split
      · next none =>
        -- The chunk has no newline, so the request has all of it when it comes to the next one.
        have together : newline ∉ taken ++ held := by
          simp [unended, newline_notMem_of_dropWhile none]
        rw [ih together, List.map_append, List.append_assoc]
      · next ending behind some =>
        obtain ⟨rfl, whole⟩ := eq_append_of_dropWhile some
        have together : newline ∉ taken ++ held.takeWhile (· != newline) := by
          simp [unended, newline_notMem_takeWhile held]
        have arrived : taken.map .byte ++ (held.map .byte ++ delivered chunks) =
            (taken ++ held.takeWhile (· != newline)).map .byte ++
              .byte newline :: (behind.map .byte ++ delivered chunks) := by
          conv_lhs => rw [whole]
          simp
        rw [arrived, pieces_append_newline together]
        rfl

private theorem request_of_none {chunks rest : List Chunk} (h : request taken chunks = (none, rest)) :
    rest = [] := by
  induction chunks generalizing taken with
  | nil => exact (congrArg Prod.snd h).symm
  | cons chunk chunks ih =>
    cases chunk with
    | fault cause =>
      rw [request] at h
      split at h
      · exact ih h
      · exact nomatch h
    | bytes held =>
      rw [request] at h
      split at h
      · exact ih h
      · exact nomatch h

private theorem pieces_of_request {chunks rest : List Chunk} {found : Option Piece}
    (h : request [] chunks = (found, rest)) :
    pieces (delivered chunks) = found.toList ++ pieces (delivered rest) := by
  have takes := request_takes chunks (List.not_mem_nil (a := newline))
  rw [h] at takes
  exact takes.symm

def answers (chunks : List Chunk) : List Piece :=
  match _ : request [] chunks with
  | (none, _) => []
  | (some piece, rest) => piece :: answers rest
termination_by (pieces (delivered chunks)).length
decreasing_by
  rw [pieces_of_request ‹request [] chunks = _›]
  exact Nat.lt_succ_self _

/-- The requests find the pieces of what arrives, however it is cut into chunks. -/
theorem answers_eq_pieces (chunks : List Chunk) : answers chunks = pieces (delivered chunks) := by
  fun_induction answers chunks with
  | case1 chunks rest found =>
    obtain rfl : rest = [] := request_of_none found
    exact (pieces_of_request found).symm
  | case2 chunks piece rest found ih =>
    rw [ih, pieces_of_request found]
    rfl

/-- Requests one after another, what each of them takes, and the chunks that the last one leaves. -/
inductive Requested : List Chunk → List Piece → List Chunk → Prop
  | nil (chunks : List Chunk) : Requested chunks [] chunks
  | cons {chunks next rest : List Chunk} {piece : Piece} {others : List Piece} :
      request [] chunks = (some piece, next) → Requested next others rest →
      Requested chunks (piece :: others) rest

private theorem exists_requested {chunks : List Chunk} {taken left : List Piece}
    (h : answers chunks = taken ++ left) : ∃ rest, Requested chunks taken rest ∧ answers rest = left := by
  induction taken generalizing chunks with
  | nil => exact ⟨chunks, .nil chunks, h⟩
  | cons piece taken ih =>
    rw [answers] at h
    split at h
    · exact nomatch h
    · next first next found =>
      obtain ⟨rfl, others⟩ := List.cons.inj h
      obtain ⟨rest, requested, same⟩ := ih others
      exact ⟨rest, .cons found requested, same⟩

end Requests

section Normal

/-- Puts a chunk in front of others. An interruption is left out, bytes are joined with those behind them,
and no bytes are no chunk. -/
def join : Chunk → List Chunk → List Chunk
  | .fault cause, rest => if cause.kind = .interrupted then rest else .fault cause :: rest
  | .bytes held, .bytes more :: rest => .bytes (held ++ more) :: rest
  | .bytes held, rest => if held = [] then rest else .bytes held :: rest

def normalised (chunks : List Chunk) : List Chunk :=
  chunks.foldr join []

/-- Chunks without interruptions, no two of bytes side by side. -/
inductive Normal : List Chunk → Prop
  | nil : Normal []
  | fault {cause : Fault} {rest : List Chunk} : cause.kind ≠ .interrupted → Normal rest →
      Normal (.fault cause :: rest)
  | bytes {held : List UInt8} {rest : List Chunk} : held ≠ [] → (∀ more, rest.head? ≠ some (.bytes more)) →
      Normal rest → Normal (.bytes held :: rest)

private theorem Normal.join {rest : List Chunk} (h : Normal rest) (chunk : Chunk) : Normal (join chunk rest) := by
  cases chunk with
  | fault cause =>
    rw [Chunk.join]
    split
    · exact h
    · next hard => exact .fault hard h
  | bytes held =>
    cases h with
    | nil =>
      rw [Chunk.join]
      split
      · exact .nil
      · next some => exact .bytes some nofun .nil
      · nofun
    | fault hard others =>
      rw [Chunk.join]
      split
      · exact .fault hard others
      · next some => exact .bytes some nofun (.fault hard others)
      · nofun
    | bytes some alone others =>
      exact .bytes (List.append_ne_nil_of_right_ne_nil held some) alone others

private theorem normal_normalised (chunks : List Chunk) : Normal (normalised chunks) := by
  induction chunks with
  | nil => exact .nil
  | cons chunk chunks ih => exact ih.join chunk

private theorem delivered_join (chunk : Chunk) (rest : List Chunk) :
    delivered (join chunk rest) = withoutInterruptions chunk.arrivals ++ delivered rest := by
  cases chunk with
  | fault cause =>
    rw [join]
    split
    · next soft => simp [arrivals, withoutInterruptions, soft]
    · next hard => simp [arrivals, withoutInterruptions, delivered, hard]
  | bytes held =>
    have kept : withoutInterruptions (held.map .byte) = held.map .byte := by
      simp [withoutInterruptions]
    rw [arrivals, kept]
    have alone : ∀ rest, delivered (if held = [] then rest else .bytes held :: rest) =
        held.map .byte ++ delivered rest := by
      intro rest
      split
      · next none => rw [none]; rfl
      · rfl
    cases rest with
    | nil => exact alone []
    | cons first others =>
      cases first with
      | fault cause => exact alone (.fault cause :: others)
      | bytes more => simp [join, delivered, arrivals]

private theorem delivered_normalised (chunks : List Chunk) :
    delivered (normalised chunks) = withoutInterruptions (delivered chunks) := by
  induction chunks with
  | nil => rfl
  | cons chunk chunks ih =>
    have first : delivered (chunk :: chunks) = chunk.arrivals ++ delivered chunks := rfl
    have joined : normalised (chunk :: chunks) = join chunk (normalised chunks) := rfl
    rw [joined, delivered_join, ih, first]
    exact (List.filter_append ..).symm

end Normal

/-- A change of how bytes arrive: some of them come in two chunks instead of one, or an interruption comes
between two chunks. -/
inductive Edit : List Chunk → List Chunk → Prop
  | split (front back : List Chunk) (first second : List UInt8) :
      Edit (front ++ .bytes (first ++ second) :: back) (front ++ .bytes first :: .bytes second :: back)
  | interrupt {cause : Fault} (front back : List Chunk) : cause.kind = .interrupted →
      Edit (front ++ back) (front ++ .fault cause :: back)

/-- Chunks that become each other by any number of such changes, made or undone. -/
def Rechunked : List Chunk → List Chunk → Prop :=
  Relation.EqvGen Edit

private theorem Edit.delivered_eq {a b : List Chunk} (h : Edit a b) :
    withoutInterruptions (delivered a) = withoutInterruptions (delivered b) := by
  cases h with
  | split front back first second => simp [delivered, arrivals]
  | interrupt front back soft => simp [delivered, arrivals, withoutInterruptions, soft]

private theorem Rechunked.delivered_eq {a b : List Chunk} (h : Rechunked a b) :
    withoutInterruptions (delivered a) = withoutInterruptions (delivered b) := by
  induction h with
  | rel _ _ edit => exact edit.delivered_eq
  | refl => rfl
  | symm _ _ _ ih => exact ih.symm
  | trans _ _ _ _ _ first second => exact first.trans second

end Chunk

namespace Reader

open Chunk (delivered answers normalised Normal Requested Rechunked)

def ofChunks (chunks : List Chunk) : Reader :=
  ⟨answers chunks, 0⟩

private theorem ofChunks_eq_ofStream (chunks : List Chunk) : ofChunks chunks = ofStream (delivered chunks) := by
  rw [ofChunks, Chunk.answers_eq_pieces, ofStream]

private theorem ofChunks_of_delivered_eq {a b : List Chunk}
    (h : withoutInterruptions (delivered a) = withoutInterruptions (delivered b)) :
    ofChunks a = ofChunks b := by
  rw [ofChunks_eq_ofStream, ofChunks_eq_ofStream, ofStream, ofStream,
    ← pieces_withoutInterruptions (delivered a), h, pieces_withoutInterruptions]

private theorem exists_taken (layouts : List Layout) (reader : Reader) :
    ∃ taken, reader.pending = taken ++ (readAll layouts reader).2.pending ∧
      (readAll layouts reader).2.line = reader.line + texts taken := by
  induction layouts generalizing reader with
  | nil => exact ⟨[], rfl, rfl⟩
  | cons layout layouts ih =>
    obtain ⟨block, takes⟩ := (reach_read layout reader).exists_takes
    obtain ⟨taken, split, counted⟩ := ih (reader.read layout).2
    refine ⟨block ++ taken, ?_, ?_⟩
    · rw [List.append_assoc, readAll_cons, ← split, ← takes.front]
    · rw [readAll_cons, counted, takes.counted, texts_append, Nat.add_assoc]

/-- Reads depend on the bytes and faults that arrive, not on the chunks they arrive in. They request one
line after another and leave the chunks behind these; and chunks that are split, joined or interrupted,
those of the normal form among them, have the same grids and errors read from them by every sequence of
reads. -/
theorem readAll_ofChunks (chunks : List Chunk) (layouts : List Layout) :
    (∃ taken rest, Requested chunks taken rest ∧
      (readAll layouts (ofChunks chunks)).2 = ⟨answers rest, texts taken⟩) ∧
    readAll layouts (ofChunks chunks) = readAll layouts (ofStream (delivered chunks)) ∧
    (Normal (normalised chunks) ∧
      delivered (normalised chunks) = withoutInterruptions (delivered chunks) ∧
      readAll layouts (ofChunks chunks) = readAll layouts (ofChunks (normalised chunks))) ∧
    ∀ others, Rechunked chunks others →
      readAll layouts (ofChunks others) = readAll layouts (ofChunks chunks) := by
  have clean : delivered (normalised chunks) = withoutInterruptions (delivered chunks) :=
    Chunk.delivered_normalised chunks
  refine ⟨?_, ?_, ⟨Chunk.normal_normalised chunks, clean, ?_⟩, ?_⟩
  · obtain ⟨taken, split, counted⟩ := exists_taken layouts (ofChunks chunks)
    obtain ⟨rest, requested, left⟩ := Chunk.exists_requested split
    refine ⟨taken, rest, requested, ?_⟩
    rw [left]
    exact congrArg (Reader.mk _) (counted.trans (Nat.zero_add _))
  · rw [ofChunks_eq_ofStream]
  · rw [ofChunks_eq_ofStream, ofChunks_eq_ofStream, clean, ofStream, ofStream,
      pieces_withoutInterruptions]
  · intro others rechunked
    rw [ofChunks_of_delivered_eq rechunked.delivered_eq]

/-- The second line is cut within a no-break space, where an attempt is interrupted, and within its line
end. -/
theorem readAll_ofChunks_cut :
    let whole : List Chunk := [.bytes (Text.bytes "1 0\n0\u00a0x\r\n")]
    let others : List Chunk := [.bytes (Text.bytes "1 0\n0" ++ [0xC2]),
      .fault ⟨.interrupted, "again"⟩, .bytes ([0xA0] ++ Text.bytes "x\r"), .bytes (Text.bytes "\n")]
    Rechunked whole others ∧
      (readAll [.plain, .plain] (ofChunks others)) = (readAll [.plain, .plain] (ofChunks whole)) ∧
      (readAll [.plain, .plain] (ofChunks others)).1 =
        [.error (.invalidToken 2 "x"), .error (.grid 2 .empty)] := by
  intro whole others
  let first : List UInt8 := Text.bytes "1 0\n0" ++ [0xC2]
  let second : List UInt8 := [0xA0] ++ Text.bytes "x\r"
  have encoded : Text.bytes "1 0\n0\u00a0x\r\n" = first ++ (second ++ Text.bytes "\n") := by decide
  have rechunked : Rechunked whole others := by
    simp only [whole, encoded]
    refine .trans _ _ _ (.rel _ _ (.split [] [] first _)) ?_
    refine .trans _ _ _ (.rel _ _ (.split [.bytes first] [] second _)) ?_
    exact .rel _ _ (.interrupt [.bytes first] _ rfl)
  have same := (readAll_ofChunks whole [.plain, .plain]).2.2.2 others rechunked
  refine ⟨rechunked, same, ?_⟩
  rw [ofChunks_eq_ofStream]
  decide +kernel

end Reader

end GameOfLife

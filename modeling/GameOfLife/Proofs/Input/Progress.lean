import GameOfLife.Proofs.Input.RoundTrip
import GameOfLife.Proofs.Input.Succession

/-!
How far reads get. Every read takes a block of pieces from the front of what is left and looks at nothing
behind it, so that the blocks of successive reads make up the input from its beginning. A read that finds
any input takes a newline, a fault or all the rest. A stream is therefore exhausted after one read more
than it has newlines and faults, and from then on every read finds an empty grid.
-/

set_option autoImplicit false
set_option relaxedAutoImplicit false

namespace GameOfLife

open Piece (newline)

section Endings

def Arrival.isHard : Arrival → Bool
  | .byte _ => false
  | .fault cause => cause.kind != .interrupted

/-- How many arrivals of a stream end a piece: its newlines and its hard faults. -/
def endings (stream : List Arrival) : Nat :=
  stream.count (.byte newline) + stream.countP Arrival.isHard

namespace Piece

/-- Whether a newline or a fault ended a piece; otherwise the input ended there. -/
def Ended (piece : Piece) : Prop :=
  .byte newline ∈ piece.arrivals ∨ ∃ fault, .fault fault ∈ piece.arrivals

def Separated (pieces : List Piece) : Prop :=
  ∀ piece ∈ pieces.dropLast, piece.Ended

private theorem exists_prepend (value : UInt8) (piece : Piece) (rest : List Piece) :
    ∃ longer, prepend value (piece :: rest) = longer :: rest ∧
      longer.arrivals = .byte value :: piece.arrivals := by
  cases piece <;> exact ⟨_, rfl, rfl⟩

private theorem length_prepend (value : UInt8) (rest : List Piece) :
    (prepend value rest).length = max 1 rest.length := by
  cases rest with
  | nil => rfl
  | cons piece rest => cases piece <;> simp [prepend]

private theorem Ended.of_cons {arrival : Arrival} {piece longer : Piece} (h : piece.Ended)
    (same : longer.arrivals = arrival :: piece.arrivals) : longer.Ended := by
  rw [Ended, same]
  rcases h with found | ⟨fault, found⟩
  · exact .inl (List.mem_cons_of_mem _ found)
  · exact .inr ⟨fault, List.mem_cons_of_mem _ found⟩

private theorem Separated.cons {piece : Piece} {rest : List Piece} (ended : piece.Ended)
    (h : Separated rest) : Separated (piece :: rest) := by
  cases rest with
  | nil => exact nofun
  | cons next rest =>
    rw [Separated, List.dropLast_cons_cons]
    exact List.forall_mem_cons.2 ⟨ended, h⟩

private theorem Separated.head {piece : Piece} {rest : List Piece} (h : Separated (piece :: rest))
    (more : rest ≠ []) : piece.Ended := by
  apply h piece
  rw [List.dropLast_cons_of_ne_nil more]
  exact List.mem_cons_self

private theorem Separated.of_append {front rest : List Piece} (h : Separated (front ++ rest)) :
    Separated rest := by
  cases rest with
  | nil => exact nofun
  | cons piece rest =>
    intro other member
    apply h other
    rw [List.dropLast_append_of_ne_nil (List.cons_ne_nil piece rest)]
    exact List.mem_append_right front member

private theorem Separated.prepend {rest : List Piece} (h : Separated rest) (value : UInt8) :
    Separated (prepend value rest) := by
  cases rest with
  | nil => exact nofun
  | cons piece rest =>
    obtain ⟨longer, same, arrivals⟩ := exists_prepend value piece rest
    rw [same]
    cases rest with
    | nil => exact nofun
    | cons next rest =>
      have ended := h.head (List.cons_ne_nil next rest)
      have others : Separated ([piece] ++ next :: rest) := h
      exact .cons (ended.of_cons arrivals) others.of_append

end Piece

private theorem separated_pieces (stream : List Arrival) : Piece.Separated (pieces stream) := by
  induction stream with
  | nil => exact nofun
  | cons arrival stream ih =>
    have attached : pieces (arrival :: stream) = Piece.attach arrival (pieces stream) := rfl
    rw [attached]
    cases arrival with
    | byte value =>
      rw [Piece.attach]
      split
      · next same =>
        subst same
        exact .cons (.inl List.mem_cons_self) ih
      · exact ih.prepend value
    | fault fault =>
      rw [Piece.attach]
      split
      · exact ih
      · exact .cons (.inr ⟨fault, List.mem_cons_self⟩) ih

private theorem length_pieces_le (stream : List Arrival) : (pieces stream).length ≤ endings stream + 1 := by
  induction stream with
  | nil => exact Nat.zero_le _
  | cons arrival stream ih =>
    have attached : pieces (arrival :: stream) = Piece.attach arrival (pieces stream) := rfl
    rw [attached]
    cases arrival with
    | byte value =>
      rw [Piece.attach]
      split
      · next same =>
        have counted : endings (.byte value :: stream) = endings stream + 1 := by
          simp [endings, Arrival.isHard, same, Nat.add_right_comm]
        rw [counted, List.length_cons]
        exact Nat.succ_le_succ ih
      · next different =>
        have counted : endings (.byte value :: stream) = endings stream := by
          simp [endings, Arrival.isHard, different]
        rw [counted, Piece.length_prepend]
        exact Nat.max_le.2 ⟨Nat.le_add_left 1 _, ih⟩
    | fault fault =>
      rw [Piece.attach]
      split
      · next invisible =>
        have counted : endings (.fault fault :: stream) = endings stream := by
          simp [endings, Arrival.isHard, invisible]
        rw [counted]
        exact ih
      · next noticed =>
        have hard : Arrival.isHard (.fault fault) = true := bne_iff_ne.2 noticed
        have counted : endings (.fault fault :: stream) = endings stream + 1 := by
          simp [endings, hard, Nat.add_assoc]
        rw [counted, List.length_cons]
        exact Nat.succ_le_succ ih

end Endings

namespace Reader

section Blocks

variable {α β : Type}

/-- What a way to take pieces does to a reader: it takes a block from the front, counts what is text in
it, and leaves the rest. The block alone decides the result, whatever else follows it, unless the end of
the input does. -/
structure Takes (take : Reader → Answer α) (reader : Reader) (block : List Piece) : Prop where
  front : reader.pending = block ++ (take reader).2.pending
  counted : (take reader).2.line = reader.line + texts block
  decided : (take reader).2.pending = [] ∨ ∀ rest, take ⟨block ++ rest, reader.line⟩ =
    ((take reader).1, ⟨rest, (take reader).2.line⟩)

theorem Reach.exists_takes {take : Reader → Answer α} {reader : Reader} (h : Reach take reader) :
    ∃ block, Takes take reader block := by
  obtain ⟨pending, line⟩ := reader
  cases h with
  | within result taken left split done =>
    obtain rfl : pending = taken ++ left := split
    have here : take ⟨taken ++ left, line⟩ = (result, ⟨left, line + texts taken⟩) := done left
    refine ⟨taken, ?_, ?_, .inr ?_⟩
    · rw [here]
    · rw [here]
    · intro rest
      rw [here]
      exact done rest
  | beyond result atEnd _ =>
    refine ⟨pending, ?_, ?_, .inl ?_⟩
    · rw [atEnd, List.append_nil]
    · rw [atEnd]
    · rw [atEnd]

private theorem Reach.suffix {take : Reader → Answer α} {reader : Reader} (h : Reach take reader) :
    (take reader).2.pending <:+ reader.pending := by
  obtain ⟨block, takes⟩ := h.exists_takes
  exact ⟨block, takes.front.symm⟩

private theorem proceed_suffix {answer : Answer α} {next : α → Reader → Answer β}
    (others : ∀ a left, Reach (next a) left) :
    (proceed answer next).2.pending <:+ answer.2.pending := by
  obtain ⟨result, after⟩ := answer
  cases result with
  | error e => exact List.suffix_refl _
  | ok a => exact (others a after).suffix

end Blocks

section Progress

variable (line : Nat) (piece : Piece) (rest : List Piece)

private theorem takeRows_cons_suffix : (takeRows line (piece :: rest)).2.pending <:+ rest := by
  unfold takeRows
  split
  · exact List.suffix_refl rest
  · split
    · exact List.suffix_refl rest
    · split
      · exact List.suffix_refl rest
      · exact (reach_takeRows (line + 1) rest).suffix

private theorem takeHeader_cons_suffix : (takeHeader line (piece :: rest)).2.pending <:+ rest := by
  unfold takeHeader
  split
  · exact List.suffix_refl rest
  · split
    · exact (reach_takeHeader (line + 1) rest).suffix
    · exact List.suffix_refl rest

private theorem read_cons_suffix (layout : Layout) :
    (read layout ⟨piece :: rest, line⟩).2.pending <:+ rest := by
  cases layout with
  | plain =>
    rw [read, readPlain_eq_proceed]
    exact (proceed_suffix (reach_assemble _)).trans (takeRows_cons_suffix line piece rest)
  | sized =>
    rw [read, readSized_eq_proceed]
    exact (proceed_suffix reach_readBody).trans (takeHeader_cons_suffix line piece rest)

private theorem length_pending_read_le (layout : Layout) (reader : Reader) :
    (read layout reader).2.pending.length ≤ reader.pending.length - 1 := by
  obtain ⟨pending, line⟩ := reader
  cases pending with
  | nil => exact (reach_read layout ⟨[], line⟩).suffix.length_le
  | cons piece rest => exact (read_cons_suffix line piece rest layout).length_le

private theorem length_pending_readAll_le (layouts : List Layout) (reader : Reader) :
    (readAll layouts reader).2.pending.length ≤ reader.pending.length - layouts.length := by
  induction layouts generalizing reader with
  | nil => exact Nat.le_refl _
  | cons layout layouts ih =>
    have first := length_pending_read_le layout reader
    have others := ih (read layout reader).2
    simp only [readAll_cons, List.length_cons]
    omega

end Progress

/-- A read that gets on: unless there is no input left, it takes something that a newline or a fault
ended, or all the rest. -/
structure Advances (layout : Layout) (reader : Reader) (block : List Piece) : Prop extends
    Takes (read layout) reader block where
  progress : reader.pending ≠ [] →
    (∃ piece ∈ block, piece.Ended) ∨ (read layout reader).2.pending = []

/-- The blocks that successive reads take, each from what the read before it left. -/
inductive Blocks : List Layout → Reader → List (List Piece) → Prop
  | nil (reader : Reader) : Blocks [] reader []
  | cons {layout : Layout} {layouts : List Layout} {reader : Reader} {block : List Piece}
      {blocks : List (List Piece)} : Advances layout reader block →
      Blocks layouts (reader.read layout).2 blocks → Blocks (layout :: layouts) reader (block :: blocks)

private theorem exists_advances {reader : Reader} (separated : Piece.Separated reader.pending)
    (layout : Layout) : ∃ block, Advances layout reader block := by
  obtain ⟨block, takes⟩ := (reach_read layout reader).exists_takes
  refine ⟨block, takes, ?_⟩
  intro some
  by_cases all : (read layout reader).2.pending = []
  · exact .inr all
  · obtain ⟨pending, line⟩ := reader
    obtain ⟨piece, rest, rfl⟩ := List.exists_cons_of_ne_nil some
    have split : piece :: rest = block ++ (read layout ⟨piece :: rest, line⟩).2.pending := takes.front
    have shorter := (read_cons_suffix line piece rest layout).length_le
    cases block with
    | nil =>
      have same := congrArg List.length split
      simp only [List.nil_append, List.length_cons] at same
      omega
    | cons taken block =>
      -- The first piece that is taken is not the last one there is.
      obtain ⟨rfl, behind⟩ := List.cons.inj split
      have more : rest ≠ [] := by
        rw [behind]
        exact List.append_ne_nil_of_right_ne_nil _ all
      exact .inl ⟨piece, List.mem_cons_self, separated.head more⟩

private theorem exists_blocks {reader : Reader} (separated : Piece.Separated reader.pending)
    (layouts : List Layout) : ∃ blocks, Blocks layouts reader blocks := by
  induction layouts generalizing reader with
  | nil => exact ⟨[], .nil reader⟩
  | cons layout layouts ih =>
    obtain ⟨block, advances⟩ := exists_advances separated layout
    obtain ⟨blocks, others⟩ := ih (advances.front ▸ separated).of_append
    exact ⟨block :: blocks, .cons advances others⟩

private theorem Blocks.flatten {layouts : List Layout} {reader : Reader} {blocks : List (List Piece)}
    (h : Blocks layouts reader blocks) :
    reader.pending = blocks.flatten ++ (readAll layouts reader).2.pending := by
  induction h with
  | nil reader => rfl
  | cons advances _ ih => rw [List.flatten_cons, List.append_assoc, readAll_cons, ← ih, ← advances.front]

/-- Reads on any stream take blocks of it one after another, and what these hold and what is left of it
is what arrived. One read more than there are newlines and faults leaves nothing, and when nothing is
left every further read finds an empty grid at the last line that was counted. -/
theorem readAll_advances (stream : List Arrival) (layouts : List Layout) :
    let last := (readAll layouts (ofStream stream)).2
    (∃ blocks, Blocks layouts (ofStream stream) blocks ∧
      withoutInterruptions stream = blocks.flatten.flatMap Piece.arrivals ++ last.unread) ∧
    (endings stream + 1 ≤ layouts.length → last.pending = []) ∧
    (last.pending = [] → ∀ others, readAll others last =
      (others.map fun _ => .error (.grid last.line .empty), last)) := by
  intro last
  refine ⟨?_, ?_, ?_⟩
  · have separated : Piece.Separated (ofStream stream).pending := separated_pieces stream
    obtain ⟨blocks, taken⟩ := exists_blocks separated layouts
    have cut : pieces stream = blocks.flatten ++ last.pending := taken.flatten
    refine ⟨blocks, taken, ?_⟩
    rw [← arrivals_pieces, cut, List.flatMap_append]
    rfl
  · intro enough
    have bound := length_pieces_le stream
    have left := length_pending_readAll_le layouts (ofStream stream)
    have start : (ofStream stream).pending.length = (pieces stream).length := rfl
    have none : last.pending.length ≤ 0 := by
      simp only [last]
      omega
    exact List.length_eq_zero_iff.1 (Nat.le_zero.1 none)
  · intro none others
    have finished : last = ⟨[], last.line⟩ := congrArg (Reader.mk · last.line) none
    rw [finished]
    exact readAll_finished others last.line

theorem readAll_advances_tall :
    let fault : Fault := ⟨.named "BrokenPipe", "gone"⟩
    let stream := (Text.bytes "18446744073709551615 1\n1\n").map .byte ++ [.fault fault]
    let layouts := [.sized, .plain, .plain, .sized]
    let last := (readAll layouts (ofStream stream)).2
    endings stream + 1 ≤ layouts.length ∧ last.pending = [] ∧
      (∀ others, readAll others last = (others.map fun _ => .error (.grid last.line .empty), last)) ∧
      (readAll [.sized, .plain] (ofStream stream)).1 = [.error (.io fault), .error (.grid 2 .empty)] := by
  intro fault stream layouts last
  obtain ⟨-, exhausted, stable⟩ := readAll_advances stream layouts
  have enough : endings stream + 1 ≤ layouts.length := by decide +kernel
  have none : last.pending = [] := exhausted enough
  exact ⟨enough, none, stable none, by decide +kernel⟩

end Reader

end GameOfLife

import GameOfLife.Text.Utf8

/-!
Input as it arrives: bytes, and faults between them. `pieces` cuts a stream into what each request
for a line takes from it, a line or the part of one that a fault broke off; `Piece.text` is what the
request answers. Interrupted attempts are repeated unseen, so they are in no piece.
-/

set_option autoImplicit false
set_option relaxedAutoImplicit false

namespace GameOfLife

/-- What kind of fault an input can have; kinds that have no role of their own keep their name. -/
inductive FaultKind where
  | interrupted
  | invalidData
  | named (name : String)
  deriving DecidableEq

structure Fault where
  kind : FaultKind
  message : String
  deriving DecidableEq

def Fault.notText : Fault :=
  ⟨.invalidData, "stream did not contain valid UTF-8"⟩

/-- What a stream delivers at one point: a byte, or a fault once. -/
inductive Arrival where
  | byte (value : UInt8)
  | fault (fault : Fault)
  deriving DecidableEq

/-- What one request for a line takes from a stream: the bytes up to and including a newline, or up
to the end of the stream; or else the bytes before a fault, and the fault. -/
inductive Piece where
  | line (bytes : List UInt8)
  | broken (bytes : List UInt8) (fault : Fault)
  deriving DecidableEq

namespace Piece

def newline : UInt8 := 10

def prepend (value : UInt8) : List Piece → List Piece
  | [] => [line [value]]
  | line bytes :: rest => line (value :: bytes) :: rest
  | broken bytes fault :: rest => broken (value :: bytes) fault :: rest

def attach : Arrival → List Piece → List Piece
  | .byte value, rest => if value = newline then line [value] :: rest else prepend value rest
  | .fault fault, rest => if fault.kind = .interrupted then rest else broken [] fault :: rest

def arrivals : Piece → List Arrival
  | line bytes => bytes.map .byte
  | broken bytes fault => bytes.map .byte ++ [.fault fault]

def isLineEnd (c : Char) : Bool :=
  c = '\n' || c = '\r'

def withoutLineEnd (text : String) : String :=
  String.ofList (text.toList.reverse.dropWhile isLineEnd).reverse

/-- The answer to a request for a line. A fault is reported whatever the bytes before it are. -/
def text : Piece → Except Fault String
  | line bytes =>
    match Text.decode? bytes with
    | some text => .ok (withoutLineEnd text)
    | none => .error .notText
  | broken _ fault => .error fault

end Piece

def pieces (stream : List Arrival) : List Piece :=
  stream.foldr Piece.attach []

def withoutInterruptions (stream : List Arrival) : List Arrival :=
  stream.filter fun
    | .byte _ => true
    | .fault fault => fault.kind != .interrupted

@[simp] theorem Piece.arrivals_prepend (value : UInt8) (rest : List Piece) :
    (Piece.prepend value rest).flatMap arrivals = .byte value :: rest.flatMap arrivals := by
  cases rest with
  | nil => rfl
  | cons piece rest => cases piece <;> simp [prepend, arrivals]

/-- Nothing that arrives is lost or moved by cutting a stream into pieces. -/
theorem arrivals_pieces (stream : List Arrival) :
    (pieces stream).flatMap Piece.arrivals = withoutInterruptions stream := by
  induction stream with
  | nil => rfl
  | cons arrival stream ih =>
    simp only [pieces, List.foldr_cons, withoutInterruptions] at ih ⊢
    cases arrival with
    | byte value =>
      simp only [Piece.attach]
      split <;> simp [ih, Piece.arrivals]
    | fault fault =>
      by_cases h : fault.kind = .interrupted <;> simp [Piece.attach, Piece.arrivals, h, ih]

theorem pieces_withoutInterruptions (stream : List Arrival) :
    pieces (withoutInterruptions stream) = pieces stream := by
  induction stream with
  | nil => rfl
  | cons arrival stream ih =>
    simp only [pieces, withoutInterruptions] at ih ⊢
    cases arrival with
    | byte value => simp [ih]
    | fault fault =>
      by_cases h : fault.kind = .interrupted <;> simp [h, ih, Piece.attach]

end GameOfLife

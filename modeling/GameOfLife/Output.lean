import GameOfLife.Text.Utf8

/-!
Output into a buffer of fixed size. Pieces are written one after another; the first that does not fit
is written as far as it fits, and nothing is written after it.
-/

set_option autoImplicit false
set_option relaxedAutoImplicit false

namespace GameOfLife

inductive WriteError where
  | bufferFull
  deriving DecidableEq

def WriteError.message : WriteError → String
  | bufferFull => "failed to write whole buffer"

/-- What was written, and how many more bytes there is room for. -/
structure Buffer where
  written : Array UInt8
  room : Nat
  deriving DecidableEq

namespace Buffer

def ofSize (size : Nat) : Buffer :=
  ⟨#[], size⟩

def write (buffer : Buffer) (piece : List UInt8) : Except WriteError Unit × Buffer :=
  if piece.length ≤ buffer.room then
    (.ok (), ⟨buffer.written ++ piece, buffer.room - piece.length⟩)
  else
    (.error .bufferFull, ⟨buffer.written ++ piece.take buffer.room, 0⟩)

def writeAll (buffer : Buffer) : List String → Except WriteError Unit × Buffer
  | [] => (.ok (), buffer)
  | piece :: rest =>
    match buffer.write (Text.bytes piece) with
    | (.ok (), buffer) => buffer.writeAll rest
    | (.error e, buffer) => (.error e, buffer)

def put (piece : String) : ExceptT WriteError (StateM Buffer) Unit :=
  ExceptT.mk fun buffer => buffer.write (Text.bytes piece)

end Buffer

def Unlimited.put (piece : String) : StateM (List UInt8) Unit :=
  modify fun written => written ++ Text.bytes piece

end GameOfLife

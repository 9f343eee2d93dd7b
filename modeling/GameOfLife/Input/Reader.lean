import GameOfLife.Input.Row

/-!
Reading grids one after another from a stream. A reader holds the pieces that were not requested yet
and the number of lines read so far; every operation takes pieces from the front and goes on counting,
also when it fails. A plain grid ends at a blank line or at the end of the input and its rows are
compared at the end; a sized grid begins with a header and its rows are compared one by one.
-/

set_option autoImplicit false
set_option relaxedAutoImplicit false

namespace GameOfLife

inductive Layout where
  | plain
  | sized
  deriving DecidableEq

/-- What is left of the input, and how many lines were read so far. -/
structure Reader where
  pending : List Piece
  line : Nat
  deriving DecidableEq

namespace Reader

def ofStream (stream : List Arrival) : Reader :=
  ⟨pieces stream, 0⟩

def ofBytes (bytes : List UInt8) : Reader :=
  ofStream (bytes.map .byte)

/-- An answer together with the reader that goes on from where the input was left. -/
abbrev Answer (α : Type) := Except ReadError α × Reader

/-- Rows up to a blank line, which is taken too, or up to the end of the input; `line` lines were
read before. -/
def takeRows (line : Nat) : List Piece → Answer (List (List Cell))
  | [] => (.ok [], ⟨[], line⟩)
  | piece :: rest =>
    match piece.text with
    | .error fault => (.error (.io fault), ⟨rest, line⟩)
    | .ok text =>
      if Text.allBlank text then (.ok [], ⟨rest, line + 1⟩)
      else
        match parseRow text (line + 1) with
        | .error e => (.error e, ⟨rest, line + 1⟩)
        | .ok row =>
          let (rows, reader) := takeRows (line + 1) rest
          (rows.map (row :: ·), reader)

/-- The grid of rows, the first of which is at line `first`. A row of the wrong length is
reported at its own line, an empty grid at the last line read. -/
def assemble (first : Nat) (rows : List (List Cell)) (reader : Reader) : Answer Grid :=
  match Grid.ofRows rows with
  | .ok grid => (.ok grid, reader)
  | .error .empty => (.error (.grid reader.line .empty), reader)
  | .error (.ragged row expected found) =>
    (.error (.grid (first + row) (.ragged row expected found)), reader)

def readPlain (reader : Reader) : Answer Grid :=
  match takeRows reader.line reader.pending with
  | (.error e, after) => (.error e, after)
  | (.ok rows, after) => assemble (reader.line + 1) rows after

def takeHeader (line : Nat) : List Piece → Answer String
  | [] => (.error (.grid line .empty), ⟨[], line⟩)
  | piece :: rest =>
    match piece.text with
    | .error fault => (.error (.io fault), ⟨rest, line⟩)
    | .ok text =>
      if Text.allBlank text then takeHeader (line + 1) rest
      else (.ok text, ⟨rest, line + 1⟩)

/-- The rows that follow a header: `found` of `height` rows were taken before, at `line` lines. A
blank line, which is taken too, or the end of the input ends the grid early. -/
def takeBody (height width found line : Nat) : List Piece → Answer (List (List Cell))
  | [] =>
    if found < height then (.error (.truncated height found), ⟨[], line⟩)
    else (.ok [], ⟨[], line⟩)
  | piece :: rest =>
    if found < height then
      match piece.text with
      | .error fault => (.error (.io fault), ⟨rest, line⟩)
      | .ok text =>
        if Text.allBlank text then (.error (.truncated height found), ⟨rest, line + 1⟩)
        else
          match parseRow text (line + 1) with
          | .error e => (.error e, ⟨rest, line + 1⟩)
          | .ok row =>
            if row.length = width then
              let (rows, reader) := takeBody height width (found + 1) (line + 1) rest
              (rows.map (row :: ·), reader)
            else
              (.error (.grid (line + 1) (.ragged found width row.length)), ⟨rest, line + 1⟩)
    else (.ok [], ⟨piece :: rest, line⟩)

def readSized (reader : Reader) : Answer Grid :=
  match takeHeader reader.line reader.pending with
  | (.error e, after) => (.error e, after)
  | (.ok header, start) =>
    match headerSize? header with
    | none => (.error (.badHeader start.line (Text.trim header)), start)
    | some (height, width) =>
      if height = 0 ∨ width = 0 then (.error (.grid start.line .empty), start)
      else
        match takeBody height width 0 start.line start.pending with
        | (.error e, after) => (.error e, after)
        | (.ok rows, after) => assemble (start.line + 1) rows after

def read (layout : Layout) (reader : Reader) : Answer Grid :=
  match layout with
  | .plain => reader.readPlain
  | .sized => reader.readSized

/-- Reads grids one after another, going on after an error from where the input was left. -/
def readAll : List Layout → Reader → List (Except ReadError Grid) × Reader
  | [], reader => ([], reader)
  | layout :: layouts, reader =>
    let (result, reader) := reader.read layout
    let (results, reader) := readAll layouts reader
    (result :: results, reader)

end Reader

end GameOfLife

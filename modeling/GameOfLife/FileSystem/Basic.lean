/-!
Saving texts in files, seen from the program that saves them. A file system is known by its answers only: which
file a path names when it is opened for writing, if it names one, and how much can be written into that file.
-/

set_option autoImplicit false
set_option relaxedAutoImplicit false

namespace GameOfLife

inductive SaveError where
  | notFound
  | isFolder
  | noSpace
  | nameTooLong
  | zeroByte
  | failed (message : String)
  deriving DecidableEq

def SaveError.message : SaveError → String
  | notFound => "No such file or directory (os error 2)"
  | isFolder => "Is a directory (os error 21)"
  | noSpace => "No space left on device (os error 28)"
  | nameTooLong => "File name too long (os error 36)"
  | zeroByte => "file name contained an unexpected NUL byte"
  | failed message => message

abbrev Files := List (String × List UInt8)

structure OpenFile where
  /-- The file that holds what is written. A device holds nothing. -/
  name : Option String
  /-- For how many bytes there is room, unless there is room for any number, and what is said when it is used up. -/
  limit : Option (Nat × SaveError)
  deriving DecidableEq

namespace OpenFile

def Fits (file : OpenFile) (bytes : List UInt8) : Prop :=
  ∀ room cause, file.limit = some (room, cause) → bytes.length ≤ room

def taken (file : OpenFile) (bytes : List UInt8) : List UInt8 :=
  match file.limit with
  | none => bytes
  | some (room, _) => bytes.take room

def answer (file : OpenFile) (bytes : List UInt8) : Except SaveError Unit :=
  match file.limit with
  | none => .ok ()
  | some (room, cause) => if bytes.length ≤ room then .ok () else .error cause

section Room

variable {file : OpenFile} {bytes : List UInt8}

theorem taken_of_fits (fits : file.Fits bytes) : file.taken bytes = bytes := by
  unfold taken
  split
  · rfl
  · next room cause limit => exact List.take_of_length_le (fits room cause limit)

theorem answer_of_fits (fits : file.Fits bytes) : file.answer bytes = .ok () := by
  unfold answer
  split
  · rfl
  · next room cause limit => exact if_pos (fits room cause limit)

theorem fits_of_taken_eq (whole : file.taken bytes = bytes) : file.Fits bytes := by
  intro room cause limit
  rw [taken, limit] at whole
  have lengths := congrArg List.length whole
  rw [List.length_take] at lengths
  omega

theorem fits_of_limit_eq_none (unlimited : file.limit = none) : file.Fits bytes := by
  intro room cause limited
  rw [unlimited] at limited
  exact nomatch limited

end Room

end OpenFile

/-- A file system, known by what it says when a path is opened for writing while files hold this and that. -/
structure FileSystem where
  opened : Files → String → Except SaveError OpenFile

/-- What a program can do with files, in the monad that it runs in. -/
structure FileAccess (m : Type → Type) (File : Type) where
  /-- Opens a path for writing. If it names a file that is there, what the file holds is lost. -/
  create : String → m (Except SaveError File)
  /-- Writes a text into a file that was created just before, up to the last byte. -/
  write : File → String → m (Except SaveError Unit)

end GameOfLife

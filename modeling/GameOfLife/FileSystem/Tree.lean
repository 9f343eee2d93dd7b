import GameOfLife.FileSystem.Basic

/-!
A file system with folders and two devices, and with room for everything. A path is followed from the root, or
from the folder that the program runs in, through folders that must be there, to the file that it names.
-/

set_option autoImplicit false
set_option relaxedAutoImplicit false

namespace GameOfLife.FileSystem

def maxNameSize : Nat := 255

def pathSizeLimit : Nat := 4096

/-- The devices: one that takes everything, and one that is always full. -/
def devices : List (List String × OpenFile) :=
  [(["dev", "null"], ⟨none, none⟩), (["dev", "full"], ⟨none, some (0, .noSpace)⟩)]

/-- The place that the components of a path lead to, from a folder on. -/
def follow (folders : List (List String)) (slashAtEnd : Bool) :
    List String → List String → Except SaveError (List String)
  | _, [] => .error .isFolder
  | here, [name] =>
    if name = "." ∨ name = ".." ∨ slashAtEnd = true ∨ here ++ [name] ∈ folders then .error .isFolder
    else if maxNameSize < name.utf8ByteSize then .error .nameTooLong
    else .ok (here ++ [name])
  | here, name :: rest =>
    if name = "." then follow folders slashAtEnd here rest
    else if name = ".." then follow folders slashAtEnd here.dropLast rest
    else if maxNameSize < name.utf8ByteSize then .error .nameTooLong
    else if here ++ [name] ∈ folders then follow folders slashAtEnd (here ++ [name]) rest
    else .error .notFound

/-- How a place is called in a folder: by its path from there if it lies in it, and else by its path from the root. -/
def placeName (here place : List String) : String :=
  if here.isPrefixOf place then "/".intercalate (place.drop here.length)
  else "/" ++ "/".intercalate place

/-- The place that a path names, for a program that runs in the folder `here`. -/
def place (folders : List (List String)) (here : List String) (path : String) :
    Except SaveError (List String) :=
  let characters := path.toList
  let components := (characters.splitOn '/').filter fun component => !component.isEmpty
  if characters.contains '\x00' then .error .zeroByte
  else if path = "" then .error .notFound
  else if pathSizeLimit ≤ path.utf8ByteSize then .error .nameTooLong
  else
    follow folders (characters.getLast? = some '/') (if characters.head? = some '/' then [] else here)
      (components.map String.ofList)

def tree (folders : List (List String)) (here : List String) : FileSystem where
  opened _ path := (place folders here path).map fun place =>
    (devices.lookup place).getD ⟨some (placeName here place), none⟩

end GameOfLife.FileSystem

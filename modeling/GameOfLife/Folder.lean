import GameOfLife.FileSystem.Tree
import GameOfLife.Text.Utf8

/-!
The folder that a program runs in: the files that can be reached from it, and the file system that keeps them.
A text is saved in two steps, of which the first empties the file and the second may stop half-way.
-/

set_option autoImplicit false
set_option relaxedAutoImplicit false

namespace GameOfLife

structure Folder where
  contents : Files := []
  system : FileSystem := .tree [["dev"], ["work"]] ["work"]

namespace Folder

def files (folder : Folder) : List (String × String) :=
  folder.contents.filterMap fun file => (Text.decode? file.2).map fun text => (file.1, text)

def put (folder : Folder) (name : String) (content : List UInt8) : Folder :=
  { folder with contents := (name, content) :: folder.contents.filter fun file => file.1 != name }

def get? (folder : Folder) (name : String) : Option (List UInt8) :=
  folder.contents.lookup name

def opened (folder : Folder) (path : String) : Except SaveError OpenFile :=
  folder.system.opened folder.contents path

def holding (folder : Folder) (file : OpenFile) (content : List UInt8) : Folder :=
  match file.name with
  | none => folder
  | some name => folder.put name content

def append (folder : Folder) (file : OpenFile) (more : List UInt8) : Folder :=
  match file.name with
  | none => folder
  | some name => folder.put name ((folder.get? name).getD [] ++ more)

def access : FileAccess (StateM Folder) OpenFile where
  create path folder :=
    match folder.opened path with
    | .error cause => (.error cause, folder)
    | .ok file => (.ok file, folder.holding file [])
  write file text folder :=
    (file.answer (Text.bytes text), folder.append file (file.taken (Text.bytes text)))

theorem get?_put_self (folder : Folder) (name : String) (content : List UInt8) :
    (folder.put name content).get? name = some content := by
  simp [put, get?]

theorem put_put (folder : Folder) (name : String) (first second : List UInt8) :
    (folder.put name first).put name second = folder.put name second := by
  simp [put]

theorem append_holding_nil (folder : Folder) (file : OpenFile) (more : List UInt8) :
    (folder.holding file []).append file more = folder.holding file more := by
  unfold append holding
  split
  · rfl
  · next name named => rw [get?_put_self, put_put, Option.getD_some, List.nil_append]

end Folder

end GameOfLife

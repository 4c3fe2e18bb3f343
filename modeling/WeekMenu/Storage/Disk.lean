import WeekMenu.Storage.Folder
import WeekMenu.Storage.Memory

/-!
This module contains the storage of a session: a tree of files, and beside it the menu either in
memory or in a folder of that tree. Reading and writing the menu can be made to fail.
-/

namespace WeekMenu

inductive Place where
  | memory
  | folder (root : String)
  deriving DecidableEq, Repr, Inhabited

structure Disk where
  files : FileTree
  memory : Memory
  place : Place
  readsFail : Bool
  writesFail : Bool
  deriving DecidableEq, Repr, Inhabited

namespace Disk

def ofFiles (files : FileTree) (place : Place) : Disk where
  files := files
  memory := .empty
  place := place
  readsFail := false
  writesFail := false

def peek (d : Disk) (key : String) : Except StorageError (Option String) :=
  match d.place with
  | .memory => .ok (d.memory.get? key)
  | .folder root => Folder.read root key d.files

instance : Storage Disk where
  get key d := (if d.readsFail then .error .unavailable else d.peek key, d)
  set key value d :=
    if d.writesFail then
      (.error .unavailable, d)
    else
      match d.place with
      | .memory => (.ok (), { d with memory := d.memory.put key value })
      | .folder root =>
        let (result, files) := Folder.write root key value d.files
        (result, { d with files })
  location key d :=
    match d.place with
    | .memory => none
    | .folder root => (Folder.path? root key).toOption

end Disk
end WeekMenu

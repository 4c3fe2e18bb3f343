import WeekMenu.Storage.FileTree
import WeekMenu.Text.Quoted

/-!
This module contains what the menu asks of a storage: to keep texts under keys. An absent key is
not an error.
-/

namespace WeekMenu

inductive StorageError where
  | invalidKey (key : String)
  | file (error : FileError)
  | unavailable
  deriving DecidableEq, Repr, Inhabited

def StorageError.message : StorageError → String
  | .invalidKey key => "Invalid storage key: " ++ Text.quoted key
  | .file error => error.message
  | .unavailable => "storage unavailable"

/--
A storage. An operation may change the storage in any way, also when it fails, so a law about every
storage covers those that others write to at the same time.
-/
class Storage (σ : Type) where
  get : String → σ → Except StorageError (Option String) × σ
  set : String → String → σ → Except StorageError Unit × σ
  location : String → σ → Option String

def menuKey : String := "weeklyMenu"

end WeekMenu

import WeekMenu.Storage.Basic

/-!
This module contains a storage that keeps each key in a file of its own. A text is written beside
the file first and then moved into place, so that readers only ever see complete texts.
-/

namespace WeekMenu

inductive FileOperation where
  | createDirectories (path : String)
  | write (path content : String)
  | rename (source target : String)
  deriving DecidableEq, Repr

def FileOperation.run : FileOperation → FileTree → Except FileError FileTree
  | .createDirectories path, t => t.createDirectories path
  | .write path content, t => t.write path content
  | .rename source target, t => t.rename source target

structure Folder where
  root : String
  files : FileTree
  deriving DecidableEq, Repr, Inhabited

namespace Folder

def isKey (key : String) : Bool :=
  !key.isEmpty && key.toList.all fun c => c.isAlphanum || c == '_' || c == '-'

def path? (root key : String) : Except StorageError String :=
  if isKey key then .ok (joinPath root (key ++ ".json")) else .error (.invalidKey key)

def read (root key : String) (files : FileTree) : Except StorageError (Option String) := do
  let path ← path? root key
  if files.contains path then
    match files.read path with
    | .ok text => return some text
    | .error e => throw (.file e)
  else
    return none

def writeOperations (root key value : String) : Except StorageError (List FileOperation) := do
  let path ← path? root key
  let temporary := withExtension path "json.tmp"
  return [.createDirectories root, .write temporary value, .rename temporary path]

def runAll : List FileOperation → FileTree → Except FileError Unit × FileTree
  | [], t => (.ok (), t)
  | op :: ops, t =>
    match op.run t with
    | .ok t => runAll ops t
    | .error e => (.error e, t)

def write (root key value : String) (files : FileTree) : Except StorageError Unit × FileTree :=
  match writeOperations root key value with
  | .error e => (.error e, files)
  | .ok ops =>
    match runAll ops files with
    | (.ok (), files) => (.ok (), files)
    | (.error e, files) => (.error (.file e), files)

instance : Storage Folder where
  get key f := (read f.root key f.files, f)
  set key value f :=
    let (result, files) := write f.root key value f.files
    (result, { f with files })
  location key f := (path? f.root key).toOption

end Folder
end WeekMenu

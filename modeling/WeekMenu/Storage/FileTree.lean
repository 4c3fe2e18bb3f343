import WeekMenu.Text.Blank

/-!
This module contains a tree of files and the operations on it that the storage and the settings
need. A path is a text as a user writes it; it is looked up from the working directory.
-/

namespace WeekMenu

inductive FileError where
  | notFound
  | notADirectory
  | isADirectory
  | alreadyExists
  | nameTooLong
  deriving DecidableEq, Repr, Inhabited

def FileError.message : FileError → String
  | .notFound => "No such file or directory (os error 2)"
  | .notADirectory => "Not a directory (os error 20)"
  | .isADirectory => "Is a directory (os error 21)"
  | .alreadyExists => "File exists (os error 17)"
  | .nameTooLong => "File name too long (os error 36)"

def joinPath (directory name : String) : String :=
  if directory.isEmpty || directory.toList.getLast? == some '/' then
    directory ++ name
  else
    directory ++ "/" ++ name

/--
The path with another extension in place of that of its last name, which is what follows the last
dot. A name without a dot, or with none but at its start, has no extension to replace.
-/
def withExtension (path extension : String) : String :=
  let reversed := path.toList.reverse
  let name := reversed.takeWhile (· != '/')
  let stem :=
    match name.dropWhile (· != '.') with
    | _ :: c :: cs => c :: cs
    | _ => name
  let directory := reversed.dropWhile (· != '/')
  String.ofList (stem ++ directory).reverse ++ "." ++ extension

inductive FileNode where
  | file (content : String)
  | directory
  deriving DecidableEq, Repr

/--
A tree of files: the places that exist, newest first. A place is the list of names that lead to it
from the working directory, which always exists.
-/
structure FileTree where
  nodes : List (List String × FileNode)
  deriving DecidableEq, Repr, Inhabited

namespace FileTree

def empty : FileTree := ⟨[]⟩

def node? (t : FileTree) (place : List String) : Option FileNode :=
  if place.isEmpty then some .directory else t.nodes.lookup place

def put (t : FileTree) (place : List String) (n : FileNode) : FileTree :=
  ⟨(place, n) :: t.nodes.filter (·.1 != place)⟩

def erase (t : FileTree) (place : List String) : FileTree :=
  ⟨t.nodes.filter (·.1 != place)⟩

/--
The steps of a path. An absolute path starts at the root, which is a name of its own here. A slash
at the end asks for a directory, just as a step to `.` does.
-/
def steps (path : String) : List String :=
  let parts := (Text.splitOn '/' path.toList).map String.ofList
  let absolute := if path.startsWith "/" then ["/"] else []
  let directory := if path.endsWith "/" then ["."] else []
  absolute ++ parts.filter (!·.isEmpty) ++ directory

def follow (t : FileTree) (place : List String) : List String → Except FileError (List String)
  | [] => .ok place
  | name :: rest =>
    match t.node? place with
    | none => .error .notFound
    | some (.file _) => .error .notADirectory
    | some .directory =>
      if name == "." then
        t.follow place rest
      else if name == ".." then
        t.follow (if place.isEmpty then [".."] else place.dropLast) rest
      else if name.utf8ByteSize > 255 then
        .error .nameTooLong
      else
        t.follow (place ++ [name]) rest

def place (t : FileTree) (path : String) : Except FileError (List String) :=
  match steps path with
  | [] => .error .notFound
  | names => t.follow [] names

def contains (t : FileTree) (path : String) : Bool :=
  match t.place path with
  | .ok place => (t.node? place).isSome
  | .error _ => false

def read (t : FileTree) (path : String) : Except FileError String := do
  match t.node? (← t.place path) with
  | some (.file content) => return content
  | some .directory => throw .isADirectory
  | none => throw .notFound

def write (t : FileTree) (path content : String) : Except FileError FileTree := do
  let place ← t.place path
  match t.node? place with
  | some .directory => throw .isADirectory
  | _ => return t.put place (.file content)

def createBelow (t : FileTree) (place : List String) : List String → Except FileError FileTree
  | [] => .ok t
  | name :: rest => do
    let next ← t.follow place [name]
    match t.node? next with
    | some .directory => t.createBelow next rest
    | some (.file _) => throw (if rest.isEmpty then .alreadyExists else .notADirectory)
    | none => (t.put next .directory).createBelow next rest

def createDirectories (t : FileTree) (path : String) : Except FileError FileTree :=
  t.createBelow [] (steps path)

def rename (t : FileTree) (source target : String) : Except FileError FileTree := do
  let content ← t.read source
  let sourcePlace ← t.place source
  let targetPlace ← t.place target
  match t.node? targetPlace with
  | some .directory => throw .isADirectory
  | _ => return (t.erase sourcePlace).put targetPlace (.file content)

def ofFiles (files : List (String × String)) : FileTree :=
  files.foldl add empty
where
  add (t : FileTree) (file : String × String) : FileTree :=
    let (path, content) := file
    let written := do
      let t ← t.createBelow [] (steps path).dropLast
      t.write path content
    match written with
    | .ok t => t
    | .error _ => t

end FileTree
end WeekMenu

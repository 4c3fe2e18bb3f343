import WeekMenu.Storage.FileTree
import WeekMenu.Text.Blank
import WeekMenu.Toml.Reader

/-!
This module contains the history of commands: the commands that were carried out, each once and the
latest first, and the file in which they are kept.
-/

namespace WeekMenu
namespace History

def limit : Nat := 20

def remember (recents : List String) (command : String) : List String :=
  let command := Text.trim command
  if command.isEmpty then recents else (command :: recents.erase command).take limit

def escapeChar (c : Char) : List Char :=
  match c with
  | '"' => ['\\', '"']
  | '\\' => ['\\', '\\']
  | c =>
    if c.toNat < 0x20 || c.toNat == 0x7F then
      ['\\', 'u', '0', '0', Nat.digitChar (c.toNat / 16), Nat.digitChar (c.toNat % 16)]
    else
      [c]

def ofString (s : String) : List Char :=
  '"' :: s.toList.flatMap escapeChar ++ ['"']

def toText (recents : List String) : String :=
  let elements := (recents.map ofString).intersperse [',', ' ']
  "commands = [" ++ String.ofList elements.flatten ++ "]\n"

def ofText (text : String) : List String :=
  let found := do
    let ms ← Toml.document? text
    (← ms.lookup "commands").texts?
  found.getD []

def load (files : FileTree) (path : String) : List String :=
  match files.read path with
  | .ok text => ofText text
  | .error _ => []

def directory (path : String) : String :=
  let above := (Text.splitOn '/' path.toList).dropLast
  String.ofList (above.intersperse ['/']).flatten

def save (files : FileTree) (path : String) (recents : List String) : FileTree :=
  let files := match files.createDirectories (directory path) with
    | .ok files => files
    | .error _ => files
  match files.write path (toText recents) with
  | .ok files => files
  | .error _ => files

end History
end WeekMenu

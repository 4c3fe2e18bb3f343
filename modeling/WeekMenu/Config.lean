import WeekMenu.Days
import WeekMenu.KeyMap
import WeekMenu.Storage.FileTree
import WeekMenu.Theme
import WeekMenu.Toml.Reader

/-!
This module contains the settings of the user, which are read from a TOML file. Everything that the
file does not say has a default, and everything else that it says is ignored.
-/

namespace WeekMenu

structure Config where
  palette : PaletteName
  dataDirectory : Option String
  catalogPath : Option String
  ingredientsPath : Option String
  templatePath : Option String
  days : DayTable
  keys : KeyConfig
  deriving DecidableEq, Repr

namespace Config

def standard : Config where
  palette := .catppuccinMocha
  dataDirectory := none
  catalogPath := none
  ingredientsPath := none
  templatePath := none
  days := .bundled
  keys := .standard

instance : Inhabited Config := ⟨standard⟩

def programName : String := "mealplan"

def directory (home : String) : String :=
  joinPath (joinPath home ".config") programName

def path (home : String) : String :=
  joinPath (directory home) "config.toml"

def historyPath (home : String) : String :=
  joinPath (directory home) "recent_commands.toml"

def dataDirectoryPath (c : Config) (home : String) : String :=
  c.dataDirectory.getD
    (joinPath (joinPath (joinPath home ".local") "share") programName)

def setting (ms : Toml.Members) (key : String) (read : Toml.Value → Option α) (standard : α) :
    Option α :=
  match ms.lookup key with
  | none => some standard
  | some v => read v

def group (first second : String) (v : Toml.Value) : Option Toml.Members :=
  match v.elements? with
  | some vs => some ([first, second].zip vs)
  | none => v.members?

def readAlias (v : Toml.Value) : Option (String × String) := do
  match ← v.elements? with
  | token :: label :: _ => return (← token.text?, ← label.text?)
  | _ => none

def readDays (v : Toml.Value) : Option DayTable := do
  let ms ← group "labels" "aliases" v
  let labels ← setting ms "labels" Toml.Value.texts? DayTable.bundled.labels
  let aliases ← setting ms "aliases" (fun v => do (← v.elements?).mapM readAlias)
    DayTable.bundled.aliases
  return { labels, aliases }

def readBindings (v : Toml.Value) : Option (List (String × String)) := do
  (← v.members?).mapM fun (key, action) => do return (key, ← action.text?)

def readKeys (v : Toml.Value) : Option KeyConfig := do
  let ms ← group "profile" "custom" v
  let profile ← setting ms "profile" Toml.Value.text? KeyConfig.standard.profile
  let custom ← setting ms "custom" (fun v => (readBindings v).map some) KeyConfig.standard.custom
  return { profile, custom }

def readPalette (v : Toml.Value) : Option PaletteName :=
  match v with
  | .text key => PaletteName.ofKey? key
  | .table _ [(key, .table _ [])] => PaletteName.ofKey? key
  | .table _ [(key, .array [])] => PaletteName.ofKey? key
  | _ => none

def ofText? (text : String) : Option Config := do
  let ms ← Toml.document? text
  let path (key : String) :=
    setting ms key (fun v => v.text?.map some) none
  return {
    palette := ← setting ms "palette" readPalette standard.palette
    dataDirectory := ← path "data_dir"
    catalogPath := ← path "catalog_path"
    ingredientsPath := ← path "ingredients_path"
    templatePath := ← path "template_path"
    days := ← setting ms "days" readDays standard.days
    keys := ← setting ms "keys" readKeys standard.keys }

inductive Problem where
  | unreadable (path : String) (cause : FileError)
  | malformed (path : String)
  deriving DecidableEq, Repr

def Problem.message : Problem → String
  | .unreadable path _ => "Failed to read config " ++ path
  | .malformed path => "Malformed config " ++ path

def load (files : FileTree) (path : String) : Except Problem Config :=
  if files.contains path then
    match files.read path with
    | .error cause => .error (.unreadable path cause)
    | .ok text =>
      match ofText? text with
      | none => .error (.malformed path)
      | some config => .ok config
  else
    .ok standard

end Config
end WeekMenu

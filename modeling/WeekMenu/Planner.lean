import WeekMenu.Config
import WeekMenu.History
import WeekMenu.Mail
import WeekMenu.State.Action
import WeekMenu.Storage.Disk
import WeekMenu.Store
import WeekMenu.Suggestion

/-!
This module contains the planner: the settings, the tables and the store of one user, and what can
be asked of them.
-/

namespace WeekMenu

structure Planner where
  config : Config
  home : String
  catalog : Catalog
  ingredients : IngredientTable
  store : Store Disk

inductive OpenProblem where
  | config (problem : Config.Problem)
  | unreadable (what path : String) (cause : FileError)
  | malformed (what path : String)
  deriving DecidableEq, Repr

def OpenProblem.message : OpenProblem → String
  | .config problem => problem.message
  | .unreadable what path _ => "Failed to read " ++ what ++ " " ++ path
  | .malformed what path => "Malformed " ++ what ++ " " ++ path

namespace Planner

def readTable (files : FileTree) (what : String) (path : Option String) (bundled : α)
    (ofText? : String → Option α) : Except OpenProblem α :=
  match path with
  | none => .ok bundled
  | some path =>
    match files.read path with
    | .error cause => .error (.unreadable what path cause)
    | .ok text =>
      match ofText? text with
      | none => .error (.malformed what path)
      | some table => .ok table

def openWith (config : Config) (home : String) (disk : Disk) : Except OpenProblem Planner := do
  let catalog ←
    readTable disk.files "meal catalog" config.catalogPath Catalog.bundled Catalog.ofJson?
  let ingredients ←
    readTable disk.files "ingredient table" config.ingredientsPath IngredientTable.bundled
      IngredientTable.ofJson?
  return {
    config, home, catalog, ingredients
    store := .new disk catalog config.days.dayCount }

def dataDirectory (p : Planner) : String :=
  p.config.dataDirectoryPath p.home

def mailPath (p : Planner) : String :=
  joinPath p.dataDirectory "mail.txt"

def load (p : Planner) : Planner :=
  { p with store := p.store.load }

def execute (p : Planner) (text : String) : Outcome × Planner :=
  let (outcome, store) := p.store.execute p.config.days text
  (outcome, { p with store })

def suggest (p : Planner) (text : String) : List String :=
  Suggestion.suggest p.config.days p.catalog text

def template (p : Planner) : String :=
  match p.config.templatePath with
  | none => Mail.bundledTemplate
  | some path => (p.store.disk.files.read path).toOption.getD ""

def mail? (p : Planner) : Option String :=
  p.store.grid.map fun g => Mail.render g p.ingredients p.template

def withFiles (p : Planner) (files : FileTree) : Planner :=
  { p with store := { p.store with disk := { p.store.disk with files } } }

def saveHistory (p : Planner) (path : String) (recents : List String) : Planner :=
  p.withFiles (History.save p.store.disk.files path recents)

def saveMail (p : Planner) (mail : String) : Except FileError String × Planner :=
  match p.store.disk.files.createDirectories p.dataDirectory with
  | .error e => (.error e, p)
  | .ok files =>
    match files.write p.mailPath mail with
    | .error e => (.error e, p.withFiles files)
    | .ok files => (.ok p.mailPath, p.withFiles files)

def serve (p : Planner) : Request → Option Action × Planner
  | .execute text =>
    let (outcome, p) := p.execute text
    (some (.commandExecuted text outcome), p)
  | .reloadMenu =>
    let (_, store) := p.store.reloadIfChanged
    (none, { p with store })
  | .generateMail =>
    match p.mail? with
    | some mail => (some (.mailGenerated mail), p)
    | none => (some (.errorOccurred Rejection.uninitialized.message), p)
  | .saveMail mail =>
    let (result, p) := p.saveMail mail
    (some (.mailSaved (result.mapError FileError.message)), p)

def keepHistory (p : Planner) (path : Option String) (recents : Option (List String)) : Planner :=
  match path, recents with
  | some path, some recents => p.saveHistory path recents
  | _, _ => p

end Planner
end WeekMenu

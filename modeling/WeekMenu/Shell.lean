import WeekMenu.Planner

/-!
This module contains the command line: commands are carried out one at a time on the menu that the
screen shows, and the menu and its mail are printed.
-/

namespace WeekMenu
namespace Shell

def usage : String :=
  "usage: mealctl <exec <command>...|suggest <partial>...|mail|show>"

structure Report where
  success : Bool
  output : String
  errors : String
  files : FileTree

def Report.failure (errors message : String) (files : FileTree) : Report :=
  ⟨false, "", errors ++ "mealctl: " ++ message ++ "\n", files⟩

def configTrouble (problem : Config.Problem) : String :=
  match problem with
  | .unreadable _ cause => problem.message ++ ": " ++ cause.message
  | .malformed _ => problem.message ++ ": ..."

def openTrouble (problem : OpenProblem) : String :=
  match problem with
  | .config problem => configTrouble problem
  | .unreadable _ _ cause => problem.message ++ ": " ++ cause.message
  | .malformed _ _ => problem.message ++ ": ..."

def logName : String := "mealplan.log"

def openLog (files : FileTree) (directory : String) : Except String FileTree :=
  match files.createDirectories directory with
  | .error cause =>
    .error ("Failed to create data directory " ++ directory ++ ": " ++ cause.message)
  | .ok files =>
    let path := joinPath directory logName
    let trouble (cause : FileError) := "Failed to open log file " ++ path ++ ": " ++ cause.message
    match files.read path with
    | .ok _ => .ok files
    | .error .notFound => (files.write path "").mapError trouble
    | .error cause => .error (trouble cause)

def padRight (width : Nat) (s : String) : String :=
  s ++ String.ofList (List.replicate (width - s.length) ' ')

def describe (e : Entry) : String :=
  if e.isUnset then "-" else if e.isText then "\"" ++ e.name ++ "\"" else e.name

def dayLine (days : DayTable) (day : Nat) (menu : DayMenu) : String :=
  let label := (days.label? day).getD "?"
  let token := (days.tokenFor? day).getD ""
  padRight 10 label ++ " " ++ padRight 4 token ++ " u: " ++ padRight 24 (describe menu.upper) ++
    " l: " ++ describe menu.lower ++ "\n"

def menuLines (days : DayTable) (g : Grid) : String :=
  String.join (g.days.zipIdx.map fun (menu, day) => dayLine days day menu)

def subcommand (p : Planner) (errors : String) (name : String) (rest : List String) : Report :=
  let text := " ".intercalate rest
  let done (p : Planner) (output : String) : Report := ⟨true, output, errors, p.store.disk.files⟩
  let failed (message : String) := Report.failure errors message p.store.disk.files
  if name == "exec" then
    let (outcome, p) := p.load.execute text
    if outcome.success then
      done p (outcome.message ++ "\n")
    else
      ⟨false, "", errors ++ outcome.message ++ "\n", p.store.disk.files⟩
  else if name == "suggest" then
    done p (String.join ((p.suggest text).map (· ++ "\n")))
  else if name == "mail" then
    let p := p.load
    match p.mail? with
    | some mail => done p mail
    | none => failed Rejection.uninitialized.message
  else if name == "show" then
    let p := p.load
    match p.store.grid with
    | some g => done p (menuLines p.config.days g)
    | none => failed Rejection.uninitialized.message
  else
    failed ("unknown subcommand '" ++ name ++ "'\n" ++ usage)

def settings (home : String) (files : FileTree) : Config × Option String :=
  match Config.load files (Config.path home) with
  | .ok config => (config, none)
  | .error problem => (.standard, some (configTrouble problem))

def usedPaths (config : Config) (home : String) : List String :=
  let directory := config.dataDirectoryPath home
  let menu := (Folder.path? directory menuKey).toOption
  joinPath directory logName ::
    [menu, config.catalogPath, config.ingredientsPath, config.templatePath].filterMap id

def run (home : String) (files : FileTree) (args : List String) : Report :=
  match args with
  | [] => .failure "" usage files
  | name :: rest =>
    let (config, trouble) := settings home files
    let directory := config.dataDirectoryPath home
    match openLog files directory with
    | .error message => .failure "" message files
    | .ok files =>
      let errors := match trouble with
        | some message => "mealctl: " ++ message ++ " (using defaults)\n"
        | none => ""
      match Planner.openWith config home (.ofFiles files (.folder directory)) with
      | .error problem => .failure errors (openTrouble problem) files
      | .ok p => subcommand p errors name rest

end Shell
end WeekMenu

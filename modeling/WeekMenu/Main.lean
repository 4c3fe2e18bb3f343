import WeekMenu.Shell

/-!
This module contains the program for the command line. It fetches the files that a run may use, runs
it on them, and keeps what the run has changed.
-/

namespace WeekMenu

def placePath : List String → String
  | "/" :: names => "/" ++ "/".intercalate names
  | names => "/".intercalate names

def fetch (files : FileTree) (path : String) : IO FileTree := do
  let steps := FileTree.steps path
  try
    let content ← IO.FS.readFile path
    let withDirectory := (files.createBelow [] steps.dropLast).toOption.getD files
    return (withDirectory.write path content).toOption.getD files
  catch
    | .noFileOrDirectory .. => return files
    | _ => return (files.createBelow [] steps).toOption.getD files

def keepFile (path content : String) : IO Unit := do
  -- the file is moved into place, so that others never see half of it
  let temporary := path ++ ".tmp"
  IO.FS.writeFile temporary content
  IO.FS.rename temporary path

def keep (before after : FileTree) : IO Unit := do
  for (place, node) in after.nodes.reverse do
    if before.node? place != some node then
      match node with
      | .directory => IO.FS.createDirAll (placePath place)
      | .file content => keepFile (placePath place) content

end WeekMenu

def main (args : List String) : IO UInt32 := do
  let home := (← IO.getEnv "HOME").getD ""
  let settingsFile ← WeekMenu.fetch .empty (WeekMenu.Config.path home)
  let (config, _) := WeekMenu.Shell.settings home settingsFile
  let files ← (WeekMenu.Shell.usedPaths config home).foldlM WeekMenu.fetch settingsFile
  let report := WeekMenu.Shell.run home files args
  WeekMenu.keep files report.files
  IO.print report.output
  IO.eprint report.errors
  return if report.success then 0 else 1

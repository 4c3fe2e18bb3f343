import WeekMenu.Catalog
import WeekMenu.Command.Basic
import WeekMenu.Days

/-!
This module contains the suggestions that are offered while a command is typed. They depend on the
text alone.
-/

namespace WeekMenu
namespace Suggestion

def limit : Nat := 6

def longestToken : Nat := 4

def sandwichHint : String := "<sandwich name>"

def textHint : String := "<your text>"

structure Completion where
  head : String
  needsValue : Bool
  deriving DecidableEq, Repr

namespace Completion

def text (c : Completion) : String :=
  if c.needsValue then c.head ++ " " else c.head

def ofToken (token : String) : List Completion :=
  Zone.all.flatMap fun zone => [
    ⟨Command.head token zone "s", true⟩,
    ⟨Command.head token zone "t", true⟩,
    ⟨Command.head token zone "clear", false⟩]

def all (days : DayTable) : List Completion :=
  let tokens := days.orderedTokens.filter (·.length ≤ longestToken)
  (if tokens.isEmpty then days.lowerLabels else tokens).flatMap ofToken

def startingWith (completions : List Completion) (start : String) : List String :=
  (completions.filter fun c => start.toList.isPrefixOf c.head.toList).map text

end Completion

def generateWords (start : String) : List String :=
  Command.generateWords.filter fun w => start.toList.isPrefixOf w.toList

def atStart (completions : List Completion) : List String :=
  let day := match completions with
    | [] => "mon"
    | c :: _ => String.ofList (c.head.toList.takeWhile (· != '-'))
  ["generate",
    Command.head day .upper "s" ++ " " ++ sandwichHint,
    Command.head day .upper "t" ++ " " ++ textHint,
    Command.head day .upper "clear"]

def forHead (completions : List Completion) (head : String) : List String :=
  let start := Text.lower head
  (generateWords start ++ Completion.startingWith completions start).take limit

def forValue (catalog : Catalog) (completions : List Completion) (head value : String) :
    List String :=
  let start := Text.lower head
  if !(generateWords start).isEmpty then
    ["generate"]
  else if !head.toList.contains '-' then
    (Completion.startingWith completions start).take limit
  else
    let kind := String.ofList ((Text.splitOn '-' start.toList).getD 2 [])
    if kind == "s" then
      ((catalog.search value).take limit).map fun m => head ++ " " ++ m.name
    else if kind == "t" && value.isEmpty then
      [head ++ " " ++ textHint]
    else if Command.clearWords.contains kind then
      [head]
    else
      []

def suggest (days : DayTable) (catalog : Catalog) (text : String) : List String :=
  let completions := Completion.all days
  let cs := Text.collapseBlanks text.toList
  match Text.splitFirstBlank cs with
  | ([], _) => atStart completions
  | (head, none) => forHead completions (String.ofList head)
  | (head, some value) =>
    forValue catalog completions (String.ofList head) (String.ofList value)

end Suggestion
end WeekMenu

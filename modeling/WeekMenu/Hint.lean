import WeekMenu.Command.Outcome
import WeekMenu.Days
import WeekMenu.Text.Blank

/-!
This module contains the hints that go with an error: what the user can do about it.
-/

namespace WeekMenu
namespace Hint

def listedTokens : Nat := 8

def forRejection (days : DayTable) : Rejection → List String
  | .uninitialized => ["Wait for the menu to load, or restart the app"]
  | .generationUnavailable => [
    "Fill the week with: <day>-u-s <sandwich name>",
    "Press m to build the weekly mail instead"]
  | .unknownDay _ => [
    "Known days: " ++ ", ".intercalate (days.orderedTokens.take listedTokens),
    "Day labels also work: " ++ ", ".intercalate days.labels]
  | .upperZoneFirst _ => [
    "Set the upper zone first, e.g. mon-u-s <sandwich name>",
    "Free text counts too: mon-u-t <your text>"]
  | .ambiguousMeal _ => ["Type more of the name, or press Tab to pick a suggestion"]
  | .mealNotFound _ => [
    "Check the spelling, suggestions list matching sandwiches",
    "Use t instead of s to store it as free text"]
  | .invalidSyntax => [
    "Set a slot: <day>-<u|l>-<s|t> <value>",
    "Clear a slot: <day>-<u|l>-clear"]

def forMessage (message : String) : List String :=
  let cs := Text.lowerChars message.toList
  let mentions (words : String) := Text.occursIn words.toList cs
  (if mentions "permission denied" || mentions "read-only" then
    ["Check that the data directory is writable"]
  else
    []) ++
  (if mentions "no such file" || mentions "not found" then
    ["Check the paths in ~/.config/mealplan/config.toml"]
  else
    [])

end Hint
end WeekMenu

import WeekMenu.State.TextInput
import WeekMenu.Suggestion

/-!
This module contains the command bar: the command that is being typed and the suggestions for it.
-/

namespace WeekMenu

/--
The command bar. `historyIndex` is the remembered command that was recalled last, as long as the
user browses the history.
-/
structure CommandBar where
  input : TextInput
  suggestions : List String
  selected : Option Nat
  historyIndex : Option Nat
  deriving DecidableEq, Repr, Inhabited

namespace CommandBar

def text (b : CommandBar) : String := b.input.text

def copy (b : CommandBar) : CommandBar := { b with input := b.input.copy }

def alike (a b : CommandBar) : Bool :=
  a.input.alike b.input && a.suggestions == b.suggestions && a.selected == b.selected &&
    a.historyIndex == b.historyIndex

def setText (b : CommandBar) (text : String) (suggestions : List String) : CommandBar :=
  { b with input := .ofText text, suggestions, selected := none }

def opened (text : String) (suggestions : List String) : CommandBar where
  input := .ofText text
  suggestions := suggestions
  selected := none
  historyIndex := none

def selectNext (b : CommandBar) : CommandBar :=
  if b.suggestions.isEmpty then
    b
  else
    { b with selected := some (match b.selected with
      | some i => (i + 1) % b.suggestions.length
      | none => 0) }

def selectPrev (b : CommandBar) : CommandBar :=
  if b.suggestions.isEmpty then
    b
  else
    { b with selected := some (match b.selected with
      | some (i + 1) => i
      | _ => b.suggestions.length - 1) }

def withoutPlaceholder (cs : List Char) : List Char :=
  go [] cs
where
  -- `before` is kept in reverse
  go (before : List Char) : List Char → List Char
    | ' ' :: '<' :: _ => before.reverse ++ [' ']
    | c :: rest => go (c :: before) rest
    | [] => before.reverse

def accepted? (b : CommandBar) : Option String :=
  (b.suggestions[b.selected.getD 0]?).map fun s =>
    String.ofList (withoutPlaceholder s.toList)

end CommandBar
end WeekMenu

import WeekMenu.Catalog
import WeekMenu.Config
import WeekMenu.State.CommandBar
import WeekMenu.State.Cursor
import WeekMenu.State.MailPreview
import WeekMenu.State.Summary
import WeekMenu.State.ThemePicker
import WeekMenu.State.Trouble

/-!
This module contains the state of the program: everything that the screen shows and that the keys
act on.
-/

namespace WeekMenu

inductive Mode where
  | normal
  | commandBar
  | help
  | mailPreview
  | themeSelection
  deriving DecidableEq, Repr, Inhabited

/--
The state of the program. `menu` is the grid that the store has published last, and `summary` is
what the header says about it.
-/
structure State where
  mode : Mode
  quitting : Bool
  trouble : Option Trouble
  notice : Option String
  noticeDeadline : Option Nat
  tasks : List String
  days : DayTable
  catalog : Catalog
  menu : Option Grid
  summary : Summary
  cursor : Cursor
  bar : Option CommandBar
  recents : List String
  historyPath : Option String
  mail : Option MailPreview
  picker : Option ThemePicker
  frame : UInt64
  keymap : KeyMap
  palette : PaletteName
  theme : Theme

namespace State

def initial : State where
  mode := .normal
  quitting := false
  trouble := none
  notice := none
  noticeDeadline := none
  tasks := []
  days := .bundled
  catalog := ⟨[]⟩
  menu := none
  summary := .absent
  cursor := .start
  bar := none
  recents := []
  historyPath := none
  mail := none
  picker := none
  frame := 0
  keymap := .ofConfig .standard
  palette := .catppuccinMocha
  theme := .ofName .catppuccinMocha

instance : Inhabited State := ⟨initial⟩

def new (config : Config) (catalog : Catalog) (historyPath : Option String)
    (recents : List String) : State :=
  { initial with
    days := config.days
    catalog := catalog
    recents := recents
    historyPath := historyPath
    keymap := .ofConfig config.keys
    palette := config.palette
    theme := .ofName config.palette }

def dayCount (s : State) : Nat :=
  match s.menu with
  | some g => g.dayCount
  | none => s.days.dayCount

def slotAddress? (s : State) : Option String :=
  (s.days.tokenFor? s.cursor.day).map fun token => token ++ "-" ++ s.cursor.zone.token

def editKind (s : State) : SlotKind :=
  match s.menu.bind fun g => g.slot? s.cursor.day s.cursor.zone with
  | some e => if e.isText && !e.isUnset then .text else .sandwich
  | none => .sandwich

def suggest (s : State) (text : String) : List String :=
  Suggestion.suggest s.days s.catalog text

def copy (s : State) : State := { s with bar := s.bar.map CommandBar.copy }

def barAlike (a b : State) : Bool :=
  match a.bar, b.bar with
  | none, none => true
  | some a, some b => a.alike b
  | _, _ => false

end State
end WeekMenu

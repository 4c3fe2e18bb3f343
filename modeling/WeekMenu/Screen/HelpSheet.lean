import WeekMenu.Screen.Popup

/-!
This module contains the help: a table of the keys and commands.
-/

namespace WeekMenu
namespace Screen

def helpSections : List (String × List (String × String)) := [
  ("Navigation", [
    (" h / ←", "Previous day"),
    (" l / →", "Next day"),
    (" j / k", "Switch upper / lower zone"),
    (" click", "Select a slot")]),
  ("Slots", [
    (" s / Enter", "Set a sandwich on the slot"),
    (" t", "Set free text on the slot"),
    (" x / Del", "Clear the slot"),
    (" : / i", "Open the command bar")]),
  ("Commands", [
    (" mon-u-s club", "Sandwich from the meal list"),
    (" tue-l-t soup", "Free text"),
    (" wed-u-clear", "Clear (also reset, delete, remove)"),
    (" Tab / ↑↓", "Accept / pick a suggestion"),
    (" Ctrl-P / Ctrl-N", "Browse recent commands")]),
  ("General", [
    (" m", "Build the weekly mail (w saves it)"),
    (" T", "Choose a theme"),
    (" ?", "Show this help"),
    (" Esc", "Close modal / clear errors"),
    (" q", "Quit")])]

def sectionRows (theme : Theme) (title : String) (entries : List (String × String)) :
    List (Line × Line) :=
  ([⟨title, theme.headerItem⟩], []) ::
    entries.map fun (keys, text) => ([⟨keys, theme.footerSegmentKey⟩], [⟨text, theme.listItem⟩])

def helpRows (theme : Theme) : List (Line × Line) :=
  ((helpSections.map fun (title, entries) => sectionRows theme title entries).intersperse
    [([], [])]).flatten

def helpColumns (r : Rect) : Rect × Rect :=
  let keys := roundDiv (r.width * 35) 100
  ({ r with width := keys }, r.indent (keys + 1))

def drawHelp (theme : Theme) (area : Rect) (c : Canvas) : Canvas :=
  let r := area.centered 70 80
  if r.isEmpty then
    c
  else
    let rows := helpRows theme
    let (keys, texts) := helpColumns r.inside
    c |> drawPopup (popupFrame theme " HELP - KEYBINDINGS ") r
      |>.drawLines (rows.map (·.1)) keys
      |>.drawLines (rows.map (·.2)) texts

end Screen
end WeekMenu

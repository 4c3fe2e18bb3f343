import WeekMenu.Screen.Popup

/-!
This module contains the popup that tells what went wrong and what can be done about it.
-/

namespace WeekMenu
namespace Screen

def troubleTitle (theme : Theme) : Severity → String × Style
  | .info => (" INFO ", theme.headerItem)
  | .warning => (" REJECTED ", theme.headerWarn)
  | .error => (" ERROR ", theme.statusError)

def hintsHeading : Severity → String
  | .warning => "Try:"
  | .info => "Hints:"
  | .error => "Hints:"

def hintLines (theme : Theme) (t : Trouble) : List Line :=
  if t.hints.isEmpty then
    []
  else
    [] :: [⟨hintsHeading t.severity, theme.footerGroupName⟩] ::
      t.hints.map fun hint => [⟨"  • ", theme.headerItem⟩, ⟨hint, theme.footerSegmentKey⟩]

def troubleNote (theme : Theme) (clock : String) : Line := [
  ⟨" Esc ", theme.footerSegmentKey⟩, ⟨" dismiss ", theme.footerSegmentVal⟩,
  ⟨" " ++ clock ++ " ", theme.dimmed⟩]

def drawTrouble (theme : Theme) (clock : String) (t : Trouble) (area : Rect) (c : Canvas) :
    Canvas :=
  let r := area.centered 60 30
  if r.isEmpty then
    c
  else
    let (title, style) := troubleTitle theme t.severity
    let frame : Frame :=
      { Frame.rounded style with
        kind := .double, note := some (.right, troubleNote theme clock) }.titled title style
    let lines := [] :: [⟨t.message, theme.footerSegmentVal⟩] :: hintLines theme t
    let inner := { r.inside with x := r.inside.x + 1, width := r.inside.width - 2 }
    (drawPopup frame r c).drawParagraph ⟨lines, .left, .wrap false, 0⟩ inner

end Screen
end WeekMenu

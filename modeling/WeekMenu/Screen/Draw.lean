import WeekMenu.Screen.CommandBox
import WeekMenu.Screen.Footer
import WeekMenu.Screen.Header
import WeekMenu.Screen.HelpSheet
import WeekMenu.Screen.MailSheet
import WeekMenu.Screen.PaletteBox
import WeekMenu.Screen.TroubleBox
import WeekMenu.Screen.Week

/-!
This module contains how the state is shown on the screen: header, week and footer, and on top of
them the popups.
-/

namespace WeekMenu
namespace Screen

def isCovered (s : State) : Bool :=
  s.mode != .normal || s.trouble.isSome

def drawMode (s : State) (area : Rect) (c : Canvas) : Canvas :=
  match s.mode with
  | .normal => c
  | .help => drawHelp s.theme area c
  | .commandBar => s.bar.elim c fun bar => drawCommandBox s.theme bar area c
  | .mailPreview => s.mail.elim c fun preview => drawMail s.theme preview area c
  | .themeSelection => s.picker.elim c fun picker => drawPalettes s.theme picker s.palette area c

def draw (s : State) (clock : String) (width height : Nat) : Canvas :=
  let c := Canvas.blank width height
  if width = 0 ∨ height = 0 then
    c
  else
    let area := c.area
    let layout := Layout.ofArea area
    let c := if layout.header.isEmpty then c else drawHeader s width layout.header c
    let c := drawWeek s layout.grid c
    let c := if layout.footer.isEmpty then c else drawFooter s layout.footer c
    let c := if isCovered s then c.paint veil area else c
    let c := drawMode s area c
    s.trouble.elim c fun t => drawTrouble s.theme clock t area c

end Screen
end WeekMenu

import WeekMenu.State.Basic
import WeekMenu.Terminal.Frame
import WeekMenu.Terminal.Paragraph

/-!
This module contains what all popups have in common: what is below them is dimmed, they cast a
shadow and have a frame.
-/

namespace WeekMenu
namespace Screen

def veil : Style := Style.plain.dim

def drawShadow (r : Rect) (c : Canvas) : Canvas :=
  c.changeAll (.write " " (.bg (.named 0))) { r with x := r.x + 1, y := r.y + 1 }

def drawPopup (frame : Frame) (r : Rect) (c : Canvas) : Canvas :=
  ((drawShadow r c).erase r).drawFrame frame r

def popupFrame (theme : Theme) (title : String) : Frame :=
  (Frame.rounded theme.borderFocus).titled title theme.headerActive

end Screen
end WeekMenu

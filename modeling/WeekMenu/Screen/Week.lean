import WeekMenu.Screen.Layout
import WeekMenu.State.Basic
import WeekMenu.Terminal.Frame
import WeekMenu.Terminal.Paragraph

/-!
This module contains the view of the week: a column for each day, with its label and a box for each
of its slots.
-/

namespace WeekMenu
namespace Screen

def dayMark : String := "▶"

def imageMark : String := "◇"

def emptyMark : String := "·"

def entryLines (theme : Theme) : Entry → List Line
  | .text label =>
    if label.isEmpty then [[⟨emptyMark, theme.slotEmpty⟩]] else [[⟨label, theme.slotFreeText⟩]]
  | .meal m =>
    [⟨m.name, theme.slotCatalog⟩] ::
      if m.image.isEmpty then [] else [[⟨imageMark ++ " " ++ m.image, theme.slotImage⟩]]

def drawSlot (theme : Theme) (focused selected : Bool) (e : Entry) (r : Rect) (c : Canvas) :
    Canvas :=
  if r.width < 2 ∨ r.height < 2 then
    c
  else
    let frame := Frame.rounded (if selected && focused then theme.borderFocus else theme.border)
    let frame := if selected then { frame with fill := theme.slotSelected } else frame
    (c.drawFrame frame r).drawParagraph ⟨entryLines theme e, .center, .wrap true, 0⟩ r.inside

def dayLabel (theme : Theme) (label : String) (selected : Bool) : Line :=
  if selected then [⟨dayMark ++ " " ++ label, theme.dayLabelSelected⟩]
  else [⟨label, theme.dayLabel⟩]

def drawDay (s : State) (focused : Bool) (day : Nat) (column : Rect) (c : Canvas) : Canvas :=
  let cells := dayCells column
  let label := dayLabel s.theme ((s.days.label? day).getD "?") (day == s.cursor.day)
  let c := c.drawParagraph ⟨[label], .center, .cut 0, 0⟩ cells.label
  Zone.all.foldl
    (fun c zone =>
      let entry := (s.menu.bind (·.slot? day zone)).getD .unset
      c |> drawSlot s.theme focused (s.cursor == ⟨day, zone⟩) entry (cells.zone zone))
    c

def drawWeek (s : State) (r : Rect) (c : Canvas) : Canvas :=
  if r.isEmpty then
    c
  else
    let focused := s.mode == .normal
    let (border, title) :=
      if focused then (s.theme.borderFocus, s.theme.headerActive)
      else (s.theme.border, s.theme.headerItem)
    let c := c.drawFrame ((Frame.rounded border).titled " WEEK MENU " title) r
    (dayColumns r s.dayCount).zipIdx.foldl
      (fun c (column, day) => c |> drawDay s focused day column) c

end Screen
end WeekMenu

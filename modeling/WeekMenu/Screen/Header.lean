import WeekMenu.State.Basic
import WeekMenu.Terminal.Paragraph

/-!
This module contains the header: the name of the program and the summary of the menu, in segments
that point to the right.
-/

namespace WeekMenu
namespace Screen

def logo : String := "\uf0f5"

def tip : String := "\ue0b0"

def tipBetween (left right : Style) : Span :=
  ⟨tip, .colours (left.background.getD .reset) (right.background.getD .reset)⟩

def headerLine (summary : Summary) (theme : Theme) (width : Nat) : Line := [
  ⟨" " ++ logo ++ " MEALPLAN ", theme.headerLogo⟩,
  tipBetween theme.headerLogo theme.headerWeek,
  ⟨summary.week, theme.headerWeek⟩,
  tipBetween theme.headerWeek theme.headerStats,
  ⟨summary.stats, theme.headerStats⟩,
  tipBetween theme.headerStats theme.header,
  ⟨String.ofList (List.replicate width ' '), theme.header⟩]

def drawHeader (s : State) (width : Nat) (r : Rect) (c : Canvas) : Canvas :=
  (c.paint s.theme.header r).drawParagraph (.ofLine (headerLine s.summary s.theme width)) r

end Screen
end WeekMenu

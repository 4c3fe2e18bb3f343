import WeekMenu.Menu.Basic

/-!
This module contains the summary of the menu that the header shows.
-/

namespace WeekMenu

structure Summary where
  week : String
  stats : String
  deriving DecidableEq, Repr, Inhabited

namespace Summary

def ofGrid (g : Grid) : Summary where
  week := s!" {g.dayCount} days "
  stats := s!" {g.filledCount}/{2 * g.dayCount} slots · {g.textCount} free text "

def absent : Summary := ⟨" no menu ", " Loading... "⟩

def ofMenu : Option Grid → Summary
  | none => absent
  | some g => ofGrid g

end Summary
end WeekMenu

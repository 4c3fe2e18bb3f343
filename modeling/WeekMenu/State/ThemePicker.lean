import WeekMenu.Theme

/-!
This module contains the choice of a palette.
-/

namespace WeekMenu

structure ThemePicker where
  palettes : List PaletteName
  index : Nat
  deriving DecidableEq, Repr, Inhabited

namespace ThemePicker

def startingAt (current : PaletteName) : ThemePicker where
  palettes := PaletteName.all
  index := (PaletteName.all.idxOf? current).getD 0

def selected? (p : ThemePicker) : Option PaletteName :=
  p.palettes[p.index]?

def next (p : ThemePicker) : ThemePicker :=
  if p.palettes.isEmpty then p else { p with index := (p.index + 1) % p.palettes.length }

def prev (p : ThemePicker) : ThemePicker :=
  if p.palettes.isEmpty then p
  else if p.index = 0 then { p with index := p.palettes.length - 1 }
  else { p with index := p.index - 1 }

end ThemePicker
end WeekMenu

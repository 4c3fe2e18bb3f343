import WeekMenu.Menu.Basic

/-!
This module contains the cursor, which selects a slot of the week.
-/

namespace WeekMenu

structure Cursor where
  day : Nat
  zone : Zone
  deriving DecidableEq, Repr, Inhabited

namespace Cursor

def start : Cursor := ⟨0, .upper⟩

def left (c : Cursor) (dayCount : Nat) : Cursor :=
  if dayCount = 0 then c
  else if c.day = 0 then { c with day := dayCount - 1 }
  else { c with day := c.day - 1 }

def right (c : Cursor) (dayCount : Nat) : Cursor :=
  if dayCount = 0 then c else { c with day := (c.day + 1) % dayCount }

def flip (c : Cursor) : Cursor :=
  { c with zone := c.zone.other }

def clamp (c : Cursor) (dayCount : Nat) : Cursor :=
  { c with day := min c.day (dayCount - 1) }

end Cursor
end WeekMenu

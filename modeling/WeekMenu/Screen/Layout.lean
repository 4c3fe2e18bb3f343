import WeekMenu.Menu.Basic
import WeekMenu.Terminal.Rect

/-!
This module contains where things are on the screen: a header row, a footer row, and between them
the week with one column for each day.
-/

namespace WeekMenu
namespace Screen

structure Layout where
  header : Rect
  grid : Rect
  footer : Rect
  deriving DecidableEq, Repr

def Layout.ofArea (area : Rect) : Layout :=
  let footer := min area.height 1
  let header := min (area.height - footer) 1
  let grid := area.height - footer - header
  { header := { area with height := header }
    grid := { area with y := area.y + header, height := grid }
    footer := { area with y := area.y + header + grid, height := footer } }

def dayColumns (area : Rect) (dayCount : Nat) : List Rect :=
  area.inside.columns dayCount

structure DayCells where
  label : Rect
  upper : Rect
  lower : Rect
  deriving DecidableEq, Repr

def DayCells.zone (cells : DayCells) : Zone → Rect
  | .upper => cells.upper
  | .lower => cells.lower

def dayCells (column : Rect) : DayCells :=
  let label := min column.height 1
  let upper := (column.height - label + 1) / 2
  let lower := (column.height - label) / 2
  { label := { column with height := label }
    upper := { column with y := column.y + label, height := upper }
    lower := { column with y := column.y + label + upper, height := lower } }

def zoneAt (column : Rect) (x y : Nat) : Option Zone :=
  let cells := dayCells column
  if cells.upper.contains x y then some .upper
  else if cells.lower.contains x y then some .lower
  else none

def slotAt (area : Rect) (dayCount x y : Nat) : Option (Nat × Zone) :=
  (dayColumns area dayCount).zipIdx.findSome? fun (column, day) =>
    (zoneAt column x y).map fun zone => (day, zone)

end Screen
end WeekMenu

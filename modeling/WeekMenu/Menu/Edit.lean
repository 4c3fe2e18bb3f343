import WeekMenu.Catalog
import WeekMenu.Command.Outcome
import WeekMenu.Days

/-!
This module contains the effect of a command on a grid. Every check comes before the first change,
so a rejected command leaves nothing behind.
-/

namespace WeekMenu

def DayTable.find (t : DayTable) (token : String) : Except Rejection (Nat × String) :=
  match t.resolve token with
  | none => .error (.unknownDay token)
  | some day =>
    match t.label? day with
    | none => .error (.unknownDay token)
    | some label => .ok (day, label)

namespace Grid

def clear (g : Grid) (day : Nat) (zone : Zone) : Grid :=
  match zone with
  -- a set lower slot needs a set upper one
  | .upper => (g.put day .upper .unset).put day .lower .unset
  | .lower => g.put day .lower .unset

def accepts (g : Grid) (day : Nat) (zone : Zone) : Bool :=
  match zone with
  | .upper => true
  | .lower => (g.day? day).any (·.acceptsLower)

def entryFor (catalog : Catalog) (label : String) (zone : Zone) (kind : SlotKind)
    (value : String) : Except Rejection (Entry × String) :=
  match kind with
  | .text => .ok (.text value, s!"Updated {label} {zone.label} zone text.")
  | .sandwich =>
    match catalog.lookup value with
    | .unique m => .ok (.meal m, s!"Set {label} {zone.label} zone to sandwich \"{m.name}\".")
    | .ambiguous _ => .error (.ambiguousMeal value)
    | .notFound => .error (.mealNotFound value)

def edit (g : Grid) (catalog : Catalog) (days : DayTable) :
    Option Command → Except Rejection (Grid × String)
  | none => .error .invalidSyntax
  | some .generate => .error .generationUnavailable
  | some (.clear token zone) => do
    let (day, label) ← days.find token
    return (g.clear day zone, s!"Cleared the {zone.label} zone for {label}.")
  | some (.set token zone kind value) => do
    let (day, label) ← days.find token
    if g.accepts day zone then
      let (entry, message) ← entryFor catalog label zone kind value
      return (g.put day zone entry, message)
    else
      throw (.upperZoneFirst label)

end Grid
end WeekMenu

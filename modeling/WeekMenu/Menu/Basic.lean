/-!
This module contains the weekly menu: a grid of days, each with an upper and a lower slot that hold
a meal of the catalog, free text or nothing.
-/

namespace WeekMenu

inductive Zone where
  | upper
  | lower
  deriving DecidableEq, Repr, Inhabited

namespace Zone

def all : List Zone := [.upper, .lower]

def label : Zone → String
  | .upper => "upper"
  | .lower => "lower"

def token : Zone → String
  | .upper => "u"
  | .lower => "l"

def other : Zone → Zone
  | .upper => .lower
  | .lower => .upper

end Zone

structure Meal where
  name : String
  image : String
  deriving DecidableEq, Repr, Inhabited

/--
The content of a slot. A slot that is not set holds the empty free text.
-/
inductive Entry where
  | meal (meal : Meal)
  | text (label : String)
  deriving DecidableEq, Repr

namespace Entry

def unset : Entry := .text ""

instance : Inhabited Entry := ⟨unset⟩

def name : Entry → String
  | .meal m => m.name
  | .text label => label

def image : Entry → String
  | .meal m => m.image
  | .text _ => ""

def isText : Entry → Bool
  | .meal _ => false
  | .text _ => true

def isUnset : Entry → Bool
  | .meal _ => false
  | .text label => label.isEmpty

def meal? : Entry → Option Meal
  | .meal m => some m
  | .text _ => none

@[simp] theorem isUnset_unset : unset.isUnset = true := rfl

@[simp] theorem name_unset : unset.name = "" := rfl

theorem isUnset_iff (e : Entry) : e.isUnset = true ↔ e = unset := by
  cases e with
  | meal m => simp [isUnset, unset]
  | text label => simp [isUnset, unset]

end Entry

structure DayMenu where
  upper : Entry
  lower : Entry
  deriving DecidableEq, Repr

namespace DayMenu

def empty : DayMenu := ⟨.unset, .unset⟩

instance : Inhabited DayMenu := ⟨empty⟩

def slot (d : DayMenu) : Zone → Entry
  | .upper => d.upper
  | .lower => d.lower

def put (d : DayMenu) (zone : Zone) (e : Entry) : DayMenu :=
  match zone with
  | .upper => { d with upper := e }
  | .lower => { d with lower := e }

def acceptsLower (d : DayMenu) : Bool :=
  !d.upper.isUnset

@[simp] theorem slot_put_self (d : DayMenu) (zone : Zone) (e : Entry) :
    (d.put zone e).slot zone = e := by
  cases zone <;> rfl

end DayMenu

structure Grid where
  days : List DayMenu
  deriving DecidableEq, Repr, Inhabited

namespace Grid

def empty (dayCount : Nat) : Grid :=
  ⟨List.replicate dayCount .empty⟩

def dayCount (g : Grid) : Nat :=
  g.days.length

def day? (g : Grid) (day : Nat) : Option DayMenu :=
  g.days[day]?

def slot? (g : Grid) (day : Nat) (zone : Zone) : Option Entry :=
  (g.day? day).map (·.slot zone)

def put (g : Grid) (day : Nat) (zone : Zone) (e : Entry) : Grid :=
  ⟨g.days.modify day (·.put zone e)⟩

def entries (g : Grid) : List Entry :=
  g.days.flatMap fun d => [d.upper, d.lower]

def filledCount (g : Grid) : Nat :=
  g.entries.countP (!·.isUnset)

def textCount (g : Grid) : Nat :=
  g.entries.countP fun e => e.isText && !e.isUnset

def names (g : Grid) : List (List String) :=
  g.days.map fun d => [d.upper.name, d.lower.name]

@[simp] theorem dayCount_empty (n : Nat) : (empty n).dayCount = n := by
  simp [dayCount, empty]

end Grid

end WeekMenu

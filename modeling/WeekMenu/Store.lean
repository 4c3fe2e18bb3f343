import WeekMenu.Menu.Edit
import WeekMenu.Menu.Saved
import WeekMenu.Storage.Basic

/-!
This module contains the store: the one owner of the weekly menu, which reads it from a storage,
edits it by commands, saves it and publishes it to whoever shows it.
-/

namespace WeekMenu

structure Publication where
  grid : Option Grid
  count : Nat
  deriving DecidableEq, Repr, Inhabited

/--
The owner of the menu. The grid is missing until the menu is loaded. `remembered` is the saved text
that the store has read or written last; by it the store knows its own writes again.
-/
structure Store (σ : Type) where
  disk : σ
  catalog : Catalog
  dayCount : Nat
  grid : Option Grid
  remembered : Option String
  published : Publication
  deriving Repr

namespace Store

variable {σ : Type}

def new (disk : σ) (catalog : Catalog) (dayCount : Nat) : Store σ where
  disk := disk
  catalog := catalog
  dayCount := dayCount
  grid := none
  remembered := none
  published := ⟨none, 0⟩

def isLoaded (s : Store σ) : Bool :=
  s.grid.isSome

def notify (s : Store σ) : Store σ :=
  { s with published := ⟨s.grid, s.published.count + 1⟩ }

def put (s : Store σ) (day : Nat) (zone : Zone) (e : Entry) : Store σ :=
  { s with grid := s.grid.map (·.put day zone e) }

variable [Storage σ]

def location (s : Store σ) : Option String :=
  Storage.location menuKey s.disk

def readSaved (s : Store σ) : Option String × Store σ :=
  let (result, disk) := Storage.get menuKey s.disk
  (result.toOption.join, { s with disk })

def load (s : Store σ) : Store σ :=
  let (text, s) := s.readSaved
  { s with
    grid := some (Grid.ofSaved s.catalog s.dayCount text)
    remembered := text }.notify

/--
Load the menu if the saved text is not the one that was read or written last. The text is read
again for it. The answer tells whether the menu was loaded.
-/
def reloadIfChanged (s : Store σ) : Bool × Store σ :=
  let (text, s) := s.readSaved
  if s.isLoaded && text == s.remembered then
    (false, s)
  else
    (true, s.load)

def save (s : Store σ) : Store σ :=
  match s.grid with
  | none => s
  | some grid =>
    let text := grid.toSaved
    match Storage.set menuKey text s.disk with
    | (.ok _, disk) => { s with disk, remembered := some text }
    | (.error _, disk) => { s with disk }

def execute (s : Store σ) (days : DayTable) (text : String) : Outcome × Store σ :=
  match s.grid with
  | none => (.rejected .uninitialized, s)
  | some grid =>
    match grid.edit s.catalog days (Command.parse? text) with
    | .error reason => (.rejected reason, s)
    | .ok (grid, message) => (.accepted message, { s with grid := some grid }.save.notify)

end Store
end WeekMenu

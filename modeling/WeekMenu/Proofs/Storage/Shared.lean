import WeekMenu.Proofs.Storage.Laws

/-!
This module contains a storage to which others write the menu as well. Their writes come between any
two accesses of the program, so also between two reads of one operation.
-/

namespace WeekMenu

/--
A storage as the last access of the program has left it, and the texts that others write as the menu
from then on: those of the first list come before the next access of the program, one after another,
those of the second list between that access and the one after it, and so on.
-/
structure Shared (σ : Type) where
  disk : σ
  arrivals : List (List String)
  deriving DecidableEq, Repr

namespace Shared

variable {σ : Type}

def since (d : Shared σ) : List String :=
  d.arrivals.headD []

def between (d : Shared σ) : List String :=
  d.arrivals.tail.headD []

variable [Storage σ]

def current (d : Shared σ) : σ :=
  d.since.foldl (fun disk text => (Storage.set menuKey text disk).2) d.disk

instance : Storage (Shared σ) where
  get key d :=
    let (result, disk) := Storage.get key d.current
    (result, ⟨disk, d.arrivals.tail⟩)
  set key value d :=
    let (result, disk) := Storage.set key value d.current
    (result, ⟨disk, d.arrivals.tail⟩)
  location key d := Storage.location key d.current

variable {Holds : σ → Option String → Prop} {d : Shared σ} {text : Option String}

theorem holds_foldl_set (hw : Storage.Works Holds) (texts : List String) {disk : σ}
    (hd : Holds disk text) :
    Holds (texts.foldl (fun disk text => (Storage.set menuKey text disk).2) disk)
      (texts.getLast?.or text) := by
  -- Each write replaces the entry, so only the last one counts.
  induction texts generalizing disk text with
  | nil => exact hd
  | cons value texts ih =>
    have hlast : (value :: texts).getLast?.or text = texts.getLast?.or (some value) := by
      rw [List.getLast?_cons]
      cases texts.getLast? <;> rfl
    rw [List.foldl_cons, hlast]
    exact ih (hw.holds_set hd value)

theorem holds_current (hw : Storage.Works Holds) (hd : Holds d.disk text) :
    Holds d.current (d.since.getLast?.or text) := by
  apply holds_foldl_set hw d.since hd

theorem get_works (hw : Storage.Works Holds) (hd : Holds d.disk text) :
    (Storage.get menuKey d).1 = .ok (d.since.getLast?.or text) := by
  apply hw.get_works (holds_current hw hd)

theorem holds_get (hw : Storage.Works Holds) (hd : Holds d.disk text) :
    Holds (Storage.get menuKey d).2.disk (d.since.getLast?.or text) := by
  apply hw.get (holds_current hw hd)

theorem since_get (d : Shared σ) : (Storage.get menuKey d).2.since = d.between := by
  rfl

theorem set_works (hw : Storage.Works Holds) (hd : Holds d.disk text) (value : String) :
    (Storage.set menuKey value d).1 = .ok () := by
  apply hw.set_works (holds_current hw hd)

theorem holds_set (hw : Storage.Works Holds) (hd : Holds d.disk text) (value : String) :
    Holds (Storage.set menuKey value d).2.disk (some value) := by
  apply hw.holds_set (holds_current hw hd)

end Shared
end WeekMenu

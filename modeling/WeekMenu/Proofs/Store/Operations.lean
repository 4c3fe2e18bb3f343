import WeekMenu.Proofs.Storage.Laws
import WeekMenu.Store

/-!
This module contains what each operation does to the store: a load takes over what is saved, and a
command does nothing at all if it is rejected and commits the edited grid if it is accepted.
-/

namespace WeekMenu
namespace Store

variable {σ : Type} [Storage σ]

theorem readSaved_fst (s : Store σ) :
    s.readSaved.1 = (Storage.get menuKey s.disk).1.toOption.join := by
  rfl

theorem load_eq (s : Store σ) :
    s.load = { s with
      disk := (Storage.get menuKey s.disk).2
      grid := some (Grid.ofSaved s.catalog s.dayCount s.readSaved.1)
      remembered := s.readSaved.1
      published := ⟨some (Grid.ofSaved s.catalog s.dayCount s.readSaved.1),
        s.published.count + 1⟩ } := by
  rfl

theorem readSaved_of_get {s : Store σ} {text : Option String}
    (h : (Storage.get menuKey s.disk).1 = .ok text) : s.readSaved.1 = text := by
  rw [readSaved_fst, h]
  rfl

theorem load_of_get {s : Store σ} {text : Option String}
    (h : (Storage.get menuKey s.disk).1 = .ok text) :
    s.load = { s with
      disk := (Storage.get menuKey s.disk).2
      grid := some (Grid.ofSaved s.catalog s.dayCount text)
      remembered := text
      published := ⟨some (Grid.ofSaved s.catalog s.dayCount text), s.published.count + 1⟩ } := by
  rw [load_eq, readSaved_of_get h]

theorem reloadIfChanged_cases (s : Store σ) :
    (s.isLoaded = true ∧ s.readSaved.1 = s.remembered ∧
      s.reloadIfChanged = (false, s.readSaved.2)) ∨
    ((s.isLoaded = false ∨ s.readSaved.1 ≠ s.remembered) ∧
      s.reloadIfChanged = (true, s.readSaved.2.load)) := by
  unfold reloadIfChanged
  dsimp only
  split
  . next h =>
    rw [Bool.and_eq_true, beq_iff_eq] at h
    exact Or.inl ⟨h.1, h.2, rfl⟩
  . next h =>
    rw [Bool.and_eq_true, beq_iff_eq, Classical.not_and_iff_not_or_not, Bool.not_eq_true] at h
    exact Or.inr ⟨h, rfl⟩

def commit (s : Store σ) (g : Grid) : Store σ :=
  { s with grid := some g }.save.notify

theorem save_eq {s : Store σ} {g : Grid} (hg : s.grid = some g) :
    s.save = { s with
      disk := (Storage.set menuKey g.toSaved s.disk).2
      remembered := match (Storage.set menuKey g.toSaved s.disk).1 with
        | .ok () => some g.toSaved
        | .error _ => s.remembered } := by
  unfold save
  rw [hg]
  dsimp only
  split
  . next heq =>
    rw [heq]
  . next heq =>
    rw [heq]

theorem save_of_set {s : Store σ} {g : Grid} (hg : s.grid = some g)
    (h : (Storage.set menuKey g.toSaved s.disk).1 = .ok ()) :
    s.save = { s with
      disk := (Storage.set menuKey g.toSaved s.disk).2
      remembered := some g.toSaved } := by
  rw [save_eq hg, h]

theorem holds_save {Holds : σ → Option String → Prop} (hw : Storage.Works Holds) {s : Store σ}
    {g : Grid} {text : Option String} (hd : Holds s.disk text) (hg : s.grid = some g) :
    Holds s.save.disk (some g.toSaved) := by
  rw [save_of_set hg (hw.set_works hd)]
  exact hw.holds_set hd g.toSaved

theorem commit_eq (s : Store σ) (g : Grid) :
    s.commit g = { s with
      disk := (Storage.set menuKey g.toSaved s.disk).2
      grid := some g
      remembered := match (Storage.set menuKey g.toSaved s.disk).1 with
        | .ok () => some g.toSaved
        | .error _ => s.remembered
      published := ⟨some g, s.published.count + 1⟩ } := by
  unfold commit
  rw [save_eq rfl]
  rfl

@[simp]
theorem commit_grid (s : Store σ) (g : Grid) : (s.commit g).grid = some g := by
  rw [commit_eq]

@[simp]
theorem commit_catalog (s : Store σ) (g : Grid) : (s.commit g).catalog = s.catalog := by
  rw [commit_eq]

@[simp]
theorem commit_dayCount (s : Store σ) (g : Grid) : (s.commit g).dayCount = s.dayCount := by
  rw [commit_eq]

@[simp]
theorem commit_published (s : Store σ) (g : Grid) :
    (s.commit g).published = ⟨some g, s.published.count + 1⟩ := by
  rw [commit_eq]

theorem commit_disk (s : Store σ) (g : Grid) :
    (s.commit g).disk = (Storage.set menuKey g.toSaved s.disk).2 := by
  rw [commit_eq]

theorem commit_remembered {s : Store σ} {g : Grid}
    (h : (Storage.set menuKey g.toSaved s.disk).1 = .ok ()) :
    (s.commit g).remembered = some g.toSaved := by
  rw [commit_eq, h]

theorem holds_commit {Holds : σ → Option String → Prop} (hw : Storage.Works Holds) {s : Store σ}
    {text : Option String} (hd : Holds s.disk text) (g : Grid) :
    Holds (s.commit g).disk (some g.toSaved) := by
  rw [commit_disk]
  exact hw.holds_set hd g.toSaved

theorem execute_of_grid_none {s : Store σ} (hg : s.grid = none) (days : DayTable) (text : String) :
    s.execute days text = (.rejected .uninitialized, s) := by
  unfold execute
  rw [hg]

theorem execute_of_edit_error {s : Store σ} {g : Grid} {days : DayTable} {text : String}
    {r : Rejection} (hg : s.grid = some g)
    (he : g.edit s.catalog days (Command.parse? text) = .error r) :
    s.execute days text = (.rejected r, s) := by
  unfold execute
  rw [hg]
  dsimp only
  rw [he]

theorem execute_of_edit_ok {s : Store σ} {g g' : Grid} {days : DayTable} {text message : String}
    (hg : s.grid = some g)
    (he : g.edit s.catalog days (Command.parse? text) = .ok (g', message)) :
    s.execute days text = (.accepted message, s.commit g') := by
  unfold execute
  rw [hg]
  dsimp only
  rw [he]
  rfl

theorem execute_cases (s : Store σ) (days : DayTable) (text : String) :
    (∃ r, s.execute days text = (.rejected r, s)) ∨
    (∃ g g' message, s.grid = some g ∧
      g.edit s.catalog days (Command.parse? text) = .ok (g', message) ∧
      s.execute days text = (.accepted message, s.commit g')) := by
  cases hg : s.grid with
  | none => exact Or.inl ⟨_, execute_of_grid_none hg days text⟩
  | some g =>
    cases he : g.edit s.catalog days (Command.parse? text) with
    | error r => exact Or.inl ⟨r, execute_of_edit_error hg he⟩
    | ok result => exact Or.inr ⟨g, result.1, result.2, rfl, he, execute_of_edit_ok hg he⟩

end Store
end WeekMenu

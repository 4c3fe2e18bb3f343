import WeekMenu.Proofs.Store.Operations

/-!
This module contains the effects of a command on the world around the store: the accesses to the
storage and the publications. The accesses are seen on a storage that keeps a record of them, on
which a store behaves just as it does without the record.
-/

namespace WeekMenu

inductive Access where
  | get (key : String)
  | set (key value : String)
  deriving DecidableEq, Repr

structure Journal (σ : Type) where
  disk : σ
  accesses : List Access
  deriving DecidableEq, Repr

instance [Storage σ] : Storage (Journal σ) where
  get key j :=
    let (result, disk) := Storage.get key j.disk
    (result, ⟨disk, j.accesses ++ [.get key]⟩)
  set key value j :=
    let (result, disk) := Storage.set key value j.disk
    (result, ⟨disk, j.accesses ++ [.set key value]⟩)
  location key j := Storage.location key j.disk

namespace Store

variable {σ : Type} [Storage σ]

def forget (s : Store (Journal σ)) : Store σ :=
  { s with disk := s.disk.disk }

def observe (s : Store σ) : Store (Journal σ) :=
  { s with disk := ⟨s.disk, []⟩ }

theorem commit_accesses (s : Store (Journal σ)) (g : Grid) :
    (s.commit g).disk.accesses = s.disk.accesses ++ [.set menuKey g.toSaved] := by
  rw [commit_disk]
  rfl

theorem forget_commit (s : Store (Journal σ)) (g : Grid) :
    (s.commit g).forget = s.forget.commit g := by
  unfold commit save
  simp only [Storage.set, forget]
  cases Storage.set menuKey g.toSaved s.disk.disk with
  | mk result disk =>
    cases result <;> rfl

theorem execute_forget (s : Store (Journal σ)) (days : DayTable) (text : String) :
    s.forget.execute days text = ((s.execute days text).1, (s.execute days text).2.forget) := by
  cases hg : s.grid with
  | none =>
    rw [execute_of_grid_none hg, execute_of_grid_none (s := s.forget) hg]
  | some g =>
    cases he : g.edit s.catalog days (Command.parse? text) with
    | error r =>
      rw [execute_of_edit_error hg he, execute_of_edit_error (s := s.forget) hg he]
    | ok result =>
      rw [execute_of_edit_ok hg he, execute_of_edit_ok (s := s.forget) hg he, forget_commit]

theorem execute_effects (s : Store σ) (days : DayTable) (text : String) :
    let (outcome, s') := s.execute days text
    let (observed, j) := s.observe.execute days text
    observed = outcome ∧ j.forget = s' ∧
    (outcome.success = false → s' = s ∧ j.disk.accesses = []) ∧
    (outcome.success = true → ∃ g, s'.grid = some g ∧
      s'.published = ⟨some g, s.published.count + 1⟩ ∧
      j.disk.accesses = [.set menuKey g.toSaved]) := by
  have hforget : s.execute days text = _ := execute_forget s.observe days text
  rcases execute_cases s.observe days text with ⟨r, he⟩ | ⟨g, g', message, _, _, he⟩
  . rw [hforget, he]
    refine ⟨rfl, rfl, ?_, ?_⟩
    . intro _
      exact ⟨rfl, rfl⟩
    . intro hsuccess
      cases hsuccess
  . rw [hforget, he]
    refine ⟨rfl, rfl, ?_, ?_⟩
    . intro hsuccess
      cases hsuccess
    . intro _
      refine ⟨g', ?_, ?_, ?_⟩
      . rw [forget_commit, commit_grid]
      . rw [forget_commit, commit_published]
        rfl
      . rw [commit_accesses]
        rfl

end Store
end WeekMenu

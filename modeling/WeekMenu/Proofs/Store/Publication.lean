import WeekMenu.Proofs.Store.Operations

/-!
This module contains what the subscribers of a store see of its operations: whenever the grid is
replaced, the new one is published.
-/

namespace WeekMenu
namespace Store

variable {σ : Type}

inductive Announces (s t : Store σ) : Prop
  | kept (hgrid : t.grid = s.grid) (hpublished : t.published = s.published)
  | published (g : Grid) (hgrid : t.grid = some g) (hpublished : t.published.grid = some g)
      (hcount : s.published.count < t.published.count)

theorem Announces.refl (s : Store σ) : s.Announces s := .kept rfl rfl

variable [Storage σ]

theorem announces_reloadIfChanged (s : Store σ) : s.Announces s.reloadIfChanged.2 := by
  rcases reloadIfChanged_cases s with ⟨_, _, heq⟩ | ⟨_, heq⟩
  . rw [heq]
    exact .kept rfl rfl
  . rw [heq, load_eq]
    exact .published _ rfl rfl (Nat.lt_succ_self _)

theorem announces_execute (s : Store σ) (days : DayTable) (text : String) :
    s.Announces (s.execute days text).2 := by
  rcases execute_cases s days text with ⟨r, heq⟩ | ⟨g, g', message, _, _, heq⟩
  . rw [heq]
    exact .refl s
  . rw [heq, commit_eq]
    exact .published g' rfl rfl (Nat.lt_succ_self _)

end Store
end WeekMenu

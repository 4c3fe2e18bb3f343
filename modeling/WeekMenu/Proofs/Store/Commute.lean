import WeekMenu.Proofs.Menu.Commute
import WeekMenu.Proofs.Store.Operations

/-!
This module contains the laws of commands in a row: for different days their order does not matter,
and to repeat one that was accepted changes nothing.
-/

namespace WeekMenu
namespace Store

variable {σ : Type} [Storage σ] {Holds : σ → Option String → Prop} {s s' : Store σ} {g ga : Grid}
  {days : DayTable} {a b message : String} {text text' : Option String}

def SameMenu (Holds : σ → Option String → Prop) (s s' : Store σ) : Prop :=
  s.grid = s'.grid ∧ ∃ text, Holds s.disk text ∧ Holds s'.disk text

def Commutes (Holds : σ → Option String → Prop) (s : Store σ) (days : DayTable) (a b : String) :
    Prop :=
  let (outcomeA, sa) := s.execute days a
  let (outcomeB, sab) := sa.execute days b
  let (outcomeB', sb) := s.execute days b
  let (outcomeA', sba) := sb.execute days a
  outcomeA = outcomeA' ∧ outcomeB = outcomeB' ∧ SameMenu Holds sab sba

def Repeats (Holds : σ → Option String → Prop) (s : Store σ) (days : DayTable) (a : String) :
    Prop :=
  let (outcome, s') := s.execute days a
  let (outcome', s'') := s'.execute days a
  outcome' = outcome ∧ SameMenu Holds s'' s'

omit [Storage σ] in
theorem sameMenu_refl (h : Holds s.disk text) : SameMenu Holds s s :=
  ⟨rfl, text, h, h⟩

theorem sameMenu_commit (hw : Storage.Works Holds) (h : Holds s.disk text)
    (h' : Holds s'.disk text') (g : Grid) : SameMenu Holds (s.commit g) (s'.commit g) := by
  refine ⟨?_, some g.toSaved, holds_commit hw h g, holds_commit hw h' g⟩
  rw [commit_grid, commit_grid]

theorem execute_commit_of_edit_ok {g' : Grid}
    (h : ga.edit s.catalog days (Command.parse? a) = .ok (g', message)) :
    (s.commit ga).execute days a = (.accepted message, (s.commit ga).commit g') := by
  apply execute_of_edit_ok (commit_grid s ga)
  rw [commit_catalog]
  exact h

theorem execute_commit_of_edit_error {r : Rejection}
    (h : ga.edit s.catalog days (Command.parse? a) = .error r) :
    (s.commit ga).execute days a = (.rejected r, s.commit ga) := by
  apply execute_of_edit_error (commit_grid s ga)
  rw [commit_catalog]
  exact h

theorem commutes_of_apart (hw : Storage.Works Holds) (hg : s.grid = some g) (hd : Holds s.disk text)
    (hab : Grid.Apart days (Command.parse? a) (Command.parse? b))
    (hba : Grid.Apart days (Command.parse? b) (Command.parse? a)) : s.Commutes Holds days a b := by
  unfold Commutes
  dsimp only
  -- a rejected command leaves the store as it is, an accepted one replaces the grid
  cases ha : g.edit s.catalog days (Command.parse? a) with
  | error r =>
    rw [execute_of_edit_error hg ha]
    cases hb : g.edit s.catalog days (Command.parse? b) with
    | error r' =>
      rw [execute_of_edit_error hg hb, execute_of_edit_error hg ha]
      exact ⟨rfl, rfl, sameMenu_refl hd⟩
    | ok result =>
      have ha' := Grid.edit_error_of_apart hba hb ha
      rw [execute_of_edit_ok hg hb, execute_commit_of_edit_error ha']
      exact ⟨rfl, rfl, sameMenu_refl (holds_commit hw hd _)⟩
  | ok result =>
    rw [execute_of_edit_ok hg ha]
    cases hb : g.edit s.catalog days (Command.parse? b) with
    | error r' =>
      have hb' := Grid.edit_error_of_apart hab ha hb
      rw [execute_of_edit_error hg hb, execute_commit_of_edit_error hb', execute_of_edit_ok hg ha]
      exact ⟨rfl, rfl, sameMenu_refl (holds_commit hw hd _)⟩
    | ok result' =>
      obtain ⟨g', hb', ha'⟩ := Grid.edit_ok_of_apart hab ha hb
      rw [execute_of_edit_ok hg hb, execute_commit_of_edit_ok hb', execute_commit_of_edit_ok ha']
      exact ⟨rfl, rfl, sameMenu_commit hw (holds_commit hw hd _) (holds_commit hw hd _) g'⟩

theorem repeats_of_success (hw : Storage.Works Holds) (hg : s.grid = some g)
    (hd : Holds s.disk text) (h : (s.execute days a).1.success = true) :
    s.Repeats Holds days a := by
  unfold Repeats
  dsimp only
  cases ha : g.edit s.catalog days (Command.parse? a) with
  | error r =>
    rw [execute_of_edit_error hg ha] at h
    cases h
  | ok result =>
    have ha' := Grid.edit_again ha
    have hd' := holds_commit hw hd result.1
    rw [execute_of_edit_ok hg ha, execute_commit_of_edit_ok ha']
    refine ⟨rfl, ?_, some result.1.toSaved, holds_commit hw hd' result.1, hd'⟩
    rw [commit_grid, commit_grid]

theorem execute_commutes (hw : Storage.Works Holds) (hg : s.grid = some g) (hd : Holds s.disk text)
    (days : DayTable) :
    (∀ a b i j, days.dayOf? (Command.parse? a) = some i → days.dayOf? (Command.parse? b) = some j →
      i ≠ j → s.Commutes Holds days a b) ∧
    (∀ a, (s.execute days a).1.success = true → s.Repeats Holds days a) := by
  constructor
  . intro a b i j hi hj hij
    apply commutes_of_apart hw hg hd
    . intro day hday
      rw [hi] at hday
      rw [hj]
      simpa [← Option.some.inj hday] using hij.symm
    . intro day hday
      rw [hj] at hday
      rw [hi]
      simpa [← Option.some.inj hday] using hij
  . intro a h
    exact repeats_of_success hw hg hd h

theorem execute_commutes_memory :
    let catalog : Catalog := ⟨[⟨"Ham", "ham.png"⟩]⟩
    let days : DayTable := ⟨["Mo", "Tu"], []⟩
    let Holds := fun (m : Memory) text => m.get? menuKey = text
    let s := (new Memory.empty catalog days.dayCount).load
    (s.execute days "mo-u-s ham").1.success = true ∧
    s.Commutes Holds days "mo-u-s ham" "tu-l-t Soup" ∧ s.Repeats Holds days "mo-u-s ham" := by
  intro catalog days Holds s
  have hg : s.grid = some (Grid.empty 2) := by rfl
  have hd : Holds s.disk none := by rfl
  have hmo : days.dayOf? (Command.parse? "mo-u-s ham") = some 0 := by decide +kernel
  have htu : days.dayOf? (Command.parse? "tu-l-t Soup") = some 1 := by decide +kernel
  have hsuccess : (s.execute days "mo-u-s ham").1.success = true := by decide +kernel
  obtain ⟨hcommutes, hrepeats⟩ := execute_commutes Memory.works hg hd days
  have hboth := hcommutes "mo-u-s ham" "tu-l-t Soup" 0 1 hmo htu (by decide)
  exact ⟨hsuccess, hboth, hrepeats "mo-u-s ham" hsuccess⟩

end Store
end WeekMenu

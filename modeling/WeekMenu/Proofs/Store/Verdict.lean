import WeekMenu.Proofs.Menu.Verdict
import WeekMenu.Proofs.Storage.Laws
import WeekMenu.Proofs.Store.Operations

/-!
This module contains the verdict of a loaded store on a command, with all that an accepted command
changes in the grid and in the saved text.
-/

namespace WeekMenu
namespace Store

variable {σ : Type} [Storage σ]

theorem execute_of_admits {s : Store σ} {g : Grid} {days : DayTable} {text token : String}
    {cmd : Command} {day : Nat} (hg : s.grid = some g) (hn : g.dayCount = days.dayCount)
    (hcmd : Command.parse? text = some cmd) (hc : cmd.token? = some token)
    (hr : days.resolve token = some day) (h : g.Admits s.catalog days (some cmd)) :
    ∃ message g', s.execute days text = (.accepted message, s.commit g') ∧
      Grid.Changed s.catalog day cmd g g' := by
  obtain ⟨g', message, he⟩ := Grid.edit_of_admits hn h
  obtain ⟨cmd', token', day', heq, hc', hr', hchanged⟩ := Grid.changed_of_edit hn he
  cases heq
  rw [hc] at hc'
  cases hc'
  rw [hr] at hr'
  cases hr'
  rw [← hcmd] at he
  exact ⟨message, g', execute_of_edit_ok hg he, hchanged⟩

theorem execute_verdict {Holds : σ → Option String → Prop} (hw : Storage.Works Holds) {s : Store σ}
    {g : Grid} {saved : Option String} {days : DayTable} (hg : s.grid = some g)
    (hn : g.dayCount = days.dayCount) (hd : Holds s.disk saved) (text : String) :
    let cmd? := Command.parse? text
    let (outcome, s') := s.execute days text
    (outcome.success = true ↔ g.Admits s.catalog days cmd?) ∧
    (outcome.success = false ↔ ∃ r, outcome = .rejected r) ∧
    (∀ r, outcome = .rejected r ↔ g.Refuses s.catalog days cmd? r) ∧
    (outcome.success = true → ∃ cmd token day g', cmd? = some cmd ∧ cmd.token? = some token ∧
      days.resolve token = some day ∧ s'.grid = some g' ∧
      Grid.Changed s.catalog day cmd g g' ∧ Holds s'.disk (some g'.toSaved)) := by
  dsimp only
  rw [← Grid.edit_isOk_iff hn]
  simp only [← Grid.edit_eq_error_iff hn]
  cases he : g.edit s.catalog days (Command.parse? text) with
  | error r =>
    rw [execute_of_edit_error hg he]
    simp [Outcome.success]
  | ok result =>
    obtain ⟨g', message⟩ := result
    rw [execute_of_edit_ok hg he]
    refine ⟨by simp [Outcome.success], by simp [Outcome.success], by simp, ?_⟩
    intro _
    obtain ⟨cmd, token, day, hcmd, hc, hr, hchanged⟩ := Grid.changed_of_edit hn he
    refine ⟨cmd, token, day, g', hcmd, hc, hr, commit_grid s g', hchanged, ?_⟩
    rw [commit_disk]
    exact hw.holds_set hd g'.toSaved

theorem execute_verdict_memory :
    let catalog : Catalog := ⟨[⟨"Ham", "ham.png"⟩]⟩
    let days : DayTable := ⟨["Mo"], []⟩
    let s := (new Memory.empty catalog days.dayCount).load
    let s' := (s.execute days "mo-u-s ham").2
    s.grid = some (Grid.empty 1) ∧
    (Grid.empty 1).Admits catalog days (Command.parse? "mo-u-s ham") ∧
    ∃ cmd day g', s'.grid = some g' ∧ Grid.Changed catalog day cmd (Grid.empty 1) g' ∧
      s'.disk.get? menuKey = some g'.toSaved := by
  intro catalog days s s'
  have hg : s.grid = some (Grid.empty 1) := by rfl
  have hn : (Grid.empty 1).dayCount = days.dayCount := by rfl
  have hd : s.disk.get? menuKey = none := by rfl
  have hsuccess : (s.execute days "mo-u-s ham").1.success = true := by decide +kernel
  obtain ⟨hadmits, _, _, hchanged⟩ := execute_verdict Memory.works hg hn hd "mo-u-s ham"
  obtain ⟨cmd, token, day, g', _, _, _, hgrid, hchange, hsaved⟩ := hchanged hsuccess
  exact ⟨hg, hadmits.mp hsuccess, cmd, day, g', hgrid, hchange, hsaved⟩

end Store
end WeekMenu

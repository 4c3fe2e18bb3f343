import WeekMenu.Proofs.Menu.Order
import WeekMenu.Proofs.Storage.Laws
import WeekMenu.Proofs.Store.Operations

/-!
This module contains the runs of a store that nobody else writes to. Whatever the commands are and
whichever reads and writes fail, the days of the menu stay in order, in memory and as saved.
-/

namespace WeekMenu
namespace Store

inductive Move where
  | load
  | execute (text : String)
  | reload
  deriving DecidableEq, Repr

variable {σ : Type} [Storage σ]

def move (days : DayTable) (s : Store σ) : Move → Store σ
  | .load => s.load
  | .execute text => (s.execute days text).2
  | .reload => s.reloadIfChanged.2

def run (days : DayTable) (s : Store σ) (moves : List Move) : Store σ :=
  moves.foldl (move days) s

def Written (n : Nat) (text : Option String) : Prop :=
  text = none ∨ ∃ g, Grid.Sound n g ∧ text = some g.toSaved

theorem Written.sound {n : Nat} {text : Option String} (h : Written n text) (catalog : Catalog) :
    Grid.Sound n (Grid.ofSaved catalog n text) := by
  rcases h with rfl | ⟨g, hg, rfl⟩
  . exact Grid.Sound.empty n
  . exact hg.ofSaved_toSaved catalog

structure Intact (Holds : σ → Option String → Prop) (catalog : Catalog) (n : Nat) (s : Store σ) :
    Prop where
  catalog_eq : s.catalog = catalog
  dayCount_eq : s.dayCount = n
  grid : ∀ g, s.grid = some g → Grid.Sound n g
  saved : ∃ text, Holds s.disk text ∧ Written n text

namespace Intact

variable {Holds : σ → Option String → Prop} {catalog : Catalog} {days : DayTable} {n : Nat}
variable {s : Store σ}

omit [Storage σ] in
theorem new {disk : σ} (hd : Holds disk none) (catalog : Catalog) (n : Nat) :
    Intact Holds catalog n (Store.new disk catalog n) where
  catalog_eq := rfl
  dayCount_eq := rfl
  grid g hg := by cases hg
  saved := ⟨none, hd, Or.inl rfl⟩

theorem readSaved (h : Intact Holds catalog n s) (hk : Storage.Keeps Holds) :
    Intact Holds catalog n s.readSaved.2 := by
  obtain ⟨text, hd, hw⟩ := h.saved
  exact ⟨h.catalog_eq, h.dayCount_eq, h.grid, text, hk.get hd, hw⟩

theorem load (h : Intact Holds catalog n s) (hk : Storage.Keeps Holds) :
    Intact Holds catalog n s.load := by
  obtain ⟨text, hd, hw⟩ := h.saved
  -- A read that fails counts as nothing saved, which is in order as well.
  have hread : Written n s.readSaved.1 := by
    rw [readSaved_fst]
    cases hk.toOption_get hd with
    | inl htext => exact htext ▸ hw
    | inr hnone => exact Or.inl hnone
  rw [load_eq]
  refine ⟨h.catalog_eq, h.dayCount_eq, ?_, text, hk.get hd, hw⟩
  intro g hg
  cases hg
  rw [h.dayCount_eq]
  exact hread.sound s.catalog

theorem reload (h : Intact Holds catalog n s) (hk : Storage.Keeps Holds) :
    Intact Holds catalog n s.reloadIfChanged.2 := by
  rcases reloadIfChanged_cases s with ⟨_, _, heq⟩ | ⟨_, heq⟩
  . rw [heq]
    exact h.readSaved hk
  . rw [heq]
    exact (h.readSaved hk).load hk

theorem commit {g : Grid} (h : Intact Holds catalog n s) (hk : Storage.Keeps Holds)
    (hg : Grid.Sound n g) : Intact Holds catalog n (s.commit g) := by
  obtain ⟨text, hd, hw⟩ := h.saved
  refine ⟨?_, ?_, ?_, ?_⟩
  . rw [commit_catalog, h.catalog_eq]
  . rw [commit_dayCount, h.dayCount_eq]
  . intro g' hg'
    rw [commit_grid] at hg'
    cases hg'
    exact hg
  . rw [commit_disk]
    cases hr : (Storage.set menuKey g.toSaved s.disk).1 with
    | ok => exact ⟨some g.toSaved, hk.set_ok hd hr, Or.inr ⟨g, hg, rfl⟩⟩
    | error e =>
      cases hk.set_error hd hr with
      | inl hold => exact ⟨text, hold, hw⟩
      | inr hnew => exact ⟨some g.toSaved, hnew, Or.inr ⟨g, hg, rfl⟩⟩

theorem execute (h : Intact Holds catalog days.dayCount s) (hk : Storage.Keeps Holds)
    (text : String) : Intact Holds catalog days.dayCount (s.execute days text).2 := by
  rcases execute_cases s days text with ⟨r, he⟩ | ⟨g, g', message, hg, hedit, he⟩
  . rw [he]
    exact h
  . rw [he]
    exact h.commit hk ((h.grid g hg).edit hedit)

theorem move (h : Intact Holds catalog days.dayCount s) (hk : Storage.Keeps Holds) (m : Move) :
    Intact Holds catalog days.dayCount (s.move days m) := by
  cases m with
  | load => exact h.load hk
  | execute text => exact h.execute hk text
  | reload => exact h.reload hk

theorem run (h : Intact Holds catalog days.dayCount s) (hk : Storage.Keeps Holds)
    (moves : List Move) : Intact Holds catalog days.dayCount (s.run days moves) := by
  induction moves generalizing s with
  | nil => exact h
  | cons m moves ih =>
    apply ih
    exact h.move hk m

end Intact

theorem isLoaded_move {s : Store σ} (h : s.isLoaded = true) (days : DayTable) (m : Move) :
    (s.move days m).isLoaded = true := by
  cases m with
  | load => rfl
  | execute text =>
    simp only [move]
    rcases execute_cases s days text with ⟨r, he⟩ | ⟨g, g', message, _, _, he⟩
    . rw [he]
      exact h
    . rw [he]
      simp [isLoaded]
  | reload =>
    simp only [move]
    rcases reloadIfChanged_cases s with ⟨_, _, heq⟩ | ⟨_, heq⟩
    . rw [heq]
      exact h
    . rw [heq]
      rfl

theorem isLoaded_run {s : Store σ} (h : s.isLoaded = true) (days : DayTable) (moves : List Move) :
    (s.run days moves).isLoaded = true := by
  induction moves generalizing s with
  | nil => exact h
  | cons m moves ih =>
    apply ih
    exact isLoaded_move h days m

theorem isLoaded_run_of_mem {moves : List Move} (h : .load ∈ moves) (days : DayTable)
    (s : Store σ) : (s.run days moves).isLoaded = true := by
  induction moves generalizing s with
  | nil => cases h
  | cons m moves ih =>
    cases h with
    | head => exact isLoaded_run rfl days moves
    | tail _ hmem => exact ih hmem (s.move days m)

theorem run_ordered {Holds : σ → Option String → Prop} (hk : Storage.Keeps Holds) {disk : σ}
    (hd : Holds disk none) (catalog : Catalog) (days : DayTable) (moves : List Move) :
    let s := (Store.new disk catalog days.dayCount).run days moves
    (.load ∈ moves → s.isLoaded = true) ∧
    (∀ g, s.grid = some g → g.dayCount = days.dayCount ∧ g.Ordered) ∧
    ∃ text, Holds s.disk text ∧
      (Grid.ofSaved catalog days.dayCount text).dayCount = days.dayCount ∧
      (Grid.ofSaved catalog days.dayCount text).Ordered := by
  intro s
  have hintact : Intact Holds catalog days.dayCount s :=
    (Intact.new hd catalog days.dayCount).run hk moves
  refine ⟨?_, ?_, ?_⟩
  . intro hmem
    exact isLoaded_run_of_mem hmem days _
  . intro g hg
    have hsound := hintact.grid g hg
    exact ⟨hsound.dayCount, hsound.ordered⟩
  . obtain ⟨text, htext, hwritten⟩ := hintact.saved
    have hsound := hwritten.sound catalog
    exact ⟨text, htext, hsound.dayCount, hsound.ordered⟩

theorem run_ordered_flaky :
    let days : DayTable := ⟨["Mo"], []⟩
    let disk : Flaky := ⟨none, [false, true, false, true, false]⟩
    let moves : List Move := [.load, .execute "mo-u-t soup", .execute "mo-l-t bread", .reload]
    let s := (new disk ⟨[]⟩ days.dayCount).run days moves
    disk.entry = none ∧ s.grid = some ⟨[⟨.text "soup", .text "bread"⟩]⟩ ∧
    (∀ g, s.grid = some g → g.dayCount = days.dayCount ∧ g.Ordered) ∧
    ∃ text, s.disk.entry = text ∧ (Grid.ofSaved ⟨[]⟩ days.dayCount text).Ordered := by
  intro days disk moves s
  have hd : disk.entry = none := by rfl
  have hgrid : s.grid = some ⟨[⟨.text "soup", .text "bread"⟩]⟩ := by decide +kernel
  obtain ⟨_, hordered, text, htext, _, hsaved⟩ := run_ordered Flaky.keeps hd ⟨[]⟩ days moves
  exact ⟨hd, hgrid, hordered, text, htext, hsaved⟩

end Store
end WeekMenu

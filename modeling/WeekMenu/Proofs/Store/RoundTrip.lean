import WeekMenu.Proofs.Menu.Restored
import WeekMenu.Proofs.Store.Run

/-!
This module contains what comes back when a menu is saved and loaded again: the names of every grid,
the whole of a grid that was loaded before, and all meals that commands have put into the grid.
-/

namespace WeekMenu
namespace Store

variable {σ : Type} [Storage σ]

def reopen (s : Store σ) : Store σ :=
  (Store.new s.disk s.catalog s.dayCount).load

theorem grid_reopen (s : Store σ) : s.reopen.grid = s.load.grid := by
  rfl

variable {Holds : σ → Option String → Prop} {catalog : Catalog} {n : Nat}
variable {s : Store σ} {g : Grid} {text : Option String}

theorem grid_reopen_save (hw : Storage.Works Holds) (hd : Holds s.disk text) (hg : s.grid = some g)
    (hn : g.dayCount = s.dayCount) : s.save.reopen.grid = some (g.rebind s.catalog) := by
  have hget := hw.get_works (holds_save hw hd hg)
  rw [grid_reopen, load_of_get hget, save_of_set hg (hw.set_works hd)]
  dsimp only
  rw [Grid.ofSaved_toSaved s.catalog hn]

theorem grid_load_save_load (hw : Storage.Works Holds) (hd : Holds s.disk text) :
    s.load.save.load.grid = s.load.grid := by
  have hload := load_of_get (hw.get_works hd)
  have hd' : Holds s.load.disk text := by
    rw [hload]
    exact hw.get hd
  have hg : s.load.grid = some (Grid.ofSaved s.catalog s.dayCount text) := by
    rw [hload]
  rw [load_of_get (hw.get_works (holds_save hw hd' hg))]
  rw [save_of_set hg (hw.set_works hd'), hload]
  dsimp only
  rw [Grid.ofSaved_toSaved s.catalog (Grid.dayCount_ofSaved _ _ _), Grid.rebind_ofSaved]

structure Faithful (Holds : σ → Option String → Prop) (catalog : Catalog) (n : Nat) (s : Store σ) :
    Prop where
  catalog_eq : s.catalog = catalog
  dayCount_eq : s.dayCount = n
  saved : ∃ text, Holds s.disk text
  grid : ∃ g, s.grid = some g ∧ g.dayCount = n ∧ g.Bound catalog

namespace Faithful

theorem execute (h : Faithful Holds catalog n s) (hw : Storage.Works Holds) (days : DayTable)
    (command : String) : Faithful Holds catalog n (s.execute days command).2 := by
  rcases execute_cases s days command with ⟨r, he⟩ | ⟨g, g', message, hg, hedit, he⟩
  . rw [he]
    exact h
  . rw [he]
    obtain ⟨text, hd⟩ := h.saved
    obtain ⟨k, hk, hn, hbound⟩ := h.grid
    rw [hg] at hk
    cases hk
    rw [h.catalog_eq] at hedit
    refine ⟨?_, ?_, ⟨_, holds_commit hw hd g'⟩, g', commit_grid s g', ?_, hbound.edit hedit⟩
    . rw [commit_catalog, h.catalog_eq]
    . rw [commit_dayCount, h.dayCount_eq]
    . rw [Grid.dayCount_edit hedit, hn]

theorem run_execute (h : Faithful Holds catalog n s) (hw : Storage.Works Holds) (days : DayTable)
    (commands : List String) : Faithful Holds catalog n (s.run days (commands.map .execute)) := by
  induction commands generalizing s with
  | nil => exact h
  | cons command commands ih =>
    apply ih
    exact h.execute hw days command

end Faithful

/--
Saving and loading binds every name of a grid anew and loses none of them. Whatever text is saved,
loading it gives all days, and saving and loading these changes nothing. The meals of a grid that
commands have made from an empty one come back as they were, with their pictures.
-/
theorem save_restores (hw : Storage.Works Holds) (hd : Holds s.disk text) :
    (∀ g, s.grid = some g → g.dayCount = s.dayCount →
      Holds s.save.disk (some g.toSaved) ∧
      ∃ g', s.save.reopen.grid = some g' ∧ Grid.Restored s.catalog g g' ∧ g'.names = g.names) ∧
    (∃ g, s.load.grid = some g ∧ g.dayCount = s.dayCount ∧ s.load.save.load.grid = some g) ∧
    (s.grid = some (.empty s.dayCount) → ∀ (days : DayTable) (commands : List String),
      let k := s.run days (commands.map .execute)
      ∃ g g', k.grid = some g ∧ k.save.reopen.grid = some g' ∧
        ∀ day zone m, g.slot? day zone = some (.meal m) → g'.slot? day zone = some (.meal m)) := by
  refine ⟨?_, ?_, ?_⟩
  . intro g hg hn
    refine ⟨holds_save hw hd hg, g.rebind s.catalog, grid_reopen_save hw hd hg hn, ?_, ?_⟩
    . apply Grid.restored_rebind
    . apply Grid.names_rebind
  . have hg : s.load.grid = some (Grid.ofSaved s.catalog s.dayCount text) := by
      rw [load_of_get (hw.get_works hd)]
    refine ⟨_, hg, Grid.dayCount_ofSaved _ _ _, ?_⟩
    rw [grid_load_save_load hw hd, hg]
  . intro hempty days commands k
    have hs : Faithful Holds s.catalog s.dayCount s :=
      ⟨rfl, rfl, ⟨text, hd⟩, _, hempty, Grid.dayCount_empty _, Grid.bound_empty _ _⟩
    have hk : Faithful Holds s.catalog s.dayCount k := hs.run_execute hw days commands
    obtain ⟨text', hd'⟩ := hk.saved
    obtain ⟨g, hg, hn, hbound⟩ := hk.grid
    rw [← hk.dayCount_eq] at hn
    rw [← hk.catalog_eq] at hbound
    refine ⟨g, g.rebind k.catalog, hg, grid_reopen_save hw hd' hg hn, ?_⟩
    intro day zone m hm
    exact hbound.slot?_rebind hm

theorem save_restores_memory :
    let catalog : Catalog := ⟨[⟨"Ham", "a.png"⟩, ⟨"Ham", "b.png"⟩, ⟨"HAM", "c.png"⟩]⟩
    let days : DayTable := ⟨["Mo"], []⟩
    let g : Grid := ⟨[⟨.text "\"é\n", .meal ⟨"Ham", "b.png"⟩⟩]⟩
    let blank := (new ⟨[(menuKey, "no menu")]⟩ catalog days.dayCount : Store Memory).load
    let s := { blank with grid := some g }
    let k := blank.run days [.execute "mo-u-s ham"]
    s.disk.get? menuKey = some "no menu" ∧ blank.grid = some (.empty 1) ∧
    (∃ g', s.save.reopen.grid = some g' ∧ Grid.Restored catalog g g' ∧ g'.names = g.names) ∧
    ∃ g', k.save.reopen.grid = some g' ∧ g'.slot? 0 .upper = some (.meal ⟨"Ham", "a.png"⟩) := by
  intro catalog days g blank s k
  have hd : s.disk.get? menuKey = some "no menu" := by rfl
  have hblank : blank.grid = some (.empty 1) := by decide +kernel
  have hk : k.grid = some ⟨[⟨.meal ⟨"Ham", "a.png"⟩, .unset⟩]⟩ := by decide +kernel
  obtain ⟨hrestores, _, _⟩ := save_restores Memory.works hd
  obtain ⟨_, _, hmeals⟩ := save_restores (s := blank) Memory.works hd
  obtain ⟨g₁, g', hg₁, hg', hslot⟩ := hmeals hblank days ["mo-u-s ham"]
  rw [show blank.run days (["mo-u-s ham"].map .execute) = k from rfl, hk] at hg₁
  cases hg₁
  exact ⟨hd, hblank, (hrestores g rfl rfl).2, g', hg', hslot 0 .upper _ rfl⟩

end Store
end WeekMenu

import WeekMenu.Proofs.Menu.Saved
import WeekMenu.Proofs.Storage.Shared
import WeekMenu.Proofs.Store.Run

/-!
This module contains the store on a storage to which others write as well: it knows its own writes
again, and takes over what the others have written.
-/

namespace WeekMenu
namespace Store

variable {σ : Type} [Storage σ]

/--
The invariant of a run among others: what the store remembers is the entry as its last access has
left it, and the names in the grid are those that this entry stands for.
-/
structure Follows (Holds : σ → Option String → Prop) (catalog : Catalog) (n : Nat)
    (s : Store (Shared σ)) : Prop where
  catalog_eq : s.catalog = catalog
  dayCount_eq : s.dayCount = n
  saved : ∃ text, Holds s.disk.disk text
  dayCount : ∀ g, s.grid = some g → g.dayCount = n
  remembered : ∀ g, s.grid = some g → Holds s.disk.disk s.remembered
  names : ∀ g, s.grid = some g → g.names = (Grid.ofSaved catalog n s.remembered).names

variable {Holds : σ → Option String → Prop} {catalog : Catalog} {n : Nat}
variable {s : Store (Shared σ)} {g : Grid}

theorem reloadIfChanged_of_same (hw : Storage.Works Holds) (hg : s.grid = some g)
    (hd : Holds s.disk.disk s.remembered)
    (hsame : s.disk.since.getLast?.or s.remembered = s.remembered) :
    s.reloadIfChanged = (false, { s with disk := (Storage.get menuKey s.disk).2 }) := by
  have hread : s.readSaved.1 = s.remembered := by
    rw [readSaved_of_get (Shared.get_works hw hd), hsame]
  rcases reloadIfChanged_cases s with ⟨_, _, heq⟩ | ⟨hload | hdiffers, _⟩
  . exact heq
  . simp [isLoaded, hg] at hload
  . contradiction

theorem reloadIfChanged_of_differs (hw : Storage.Works Holds)
    (hd : Holds s.disk.disk s.remembered)
    (hdiffers : s.disk.since.getLast?.or s.remembered ≠ s.remembered) :
    s.reloadIfChanged = (true, { s with disk := (Storage.get menuKey s.disk).2 }.load) := by
  have hread : s.readSaved.1 ≠ s.remembered := by
    rw [readSaved_of_get (Shared.get_works hw hd)]
    exact hdiffers
  rcases reloadIfChanged_cases s with ⟨_, hsame, _⟩ | ⟨_, heq⟩
  . contradiction
  . exact heq

namespace Follows

omit [Storage σ] in
theorem new {disk : σ} {text : Option String} (hd : Holds disk text)
    (arrivals : List (List String)) (catalog : Catalog) (n : Nat) :
    Follows Holds catalog n (Store.new ⟨disk, arrivals⟩ catalog n) where
  catalog_eq := rfl
  dayCount_eq := rfl
  saved := ⟨text, hd⟩
  dayCount g hg := by cases hg
  remembered g hg := by cases hg
  names g hg := by cases hg

theorem of_load (hw : Storage.Works Holds) {text : Option String} (hd : Holds s.disk.disk text) :
    Follows Holds s.catalog s.dayCount s.load := by
  have hd' := Shared.holds_get hw hd
  rw [load_of_get (Shared.get_works hw hd)]
  refine ⟨rfl, rfl, ⟨_, hd'⟩, ?_, ?_, ?_⟩
  . intro g hg
    cases hg
    apply Grid.dayCount_ofSaved
  . intro g hg
    exact hd'
  . intro g hg
    cases hg
    rfl

theorem load (h : Follows Holds catalog n s) (hw : Storage.Works Holds) :
    Follows Holds catalog n s.load := by
  obtain ⟨text, hd⟩ := h.saved
  rw [← h.catalog_eq, ← h.dayCount_eq]
  exact of_load hw hd

theorem reload (h : Follows Holds catalog n s) (hw : Storage.Works Holds) :
    Follows Holds catalog n s.reloadIfChanged.2 := by
  obtain ⟨text, hd⟩ := h.saved
  have hd' : Holds s.readSaved.2.disk.disk (s.disk.since.getLast?.or text) :=
    Shared.holds_get hw hd
  rcases reloadIfChanged_cases s with ⟨hloaded, hsame, heq⟩ | ⟨_, heq⟩
  . rw [heq]
    rw [readSaved_of_get (Shared.get_works hw hd)] at hsame
    rw [hsame] at hd'
    refine ⟨h.catalog_eq, h.dayCount_eq, ⟨_, hd'⟩, h.dayCount, ?_, h.names⟩
    intro g hg
    exact hd'
  . rw [heq, ← h.catalog_eq, ← h.dayCount_eq]
    exact of_load hw hd'

theorem commit (h : Follows Holds catalog n s) (hw : Storage.Works Holds) (hn : g.dayCount = n) :
    Follows Holds catalog n (s.commit g) := by
  obtain ⟨text, hd⟩ := h.saved
  have hd' : Holds (s.commit g).disk.disk (some g.toSaved) := by
    rw [commit_disk]
    exact Shared.holds_set hw hd g.toSaved
  have hremembered := commit_remembered (Shared.set_works hw hd g.toSaved)
  refine ⟨?_, ?_, ⟨_, hd'⟩, ?_, ?_, ?_⟩
  . rw [commit_catalog, h.catalog_eq]
  . rw [commit_dayCount, h.dayCount_eq]
  . intro g' hg'
    rw [commit_grid] at hg'
    cases hg'
    exact hn
  . intro g' hg'
    rw [hremembered]
    exact hd'
  . intro g' hg'
    rw [commit_grid] at hg'
    cases hg'
    rw [hremembered, Grid.names_ofSaved_toSaved catalog hn]

theorem execute (h : Follows Holds catalog n s) (hw : Storage.Works Holds) (days : DayTable)
    (text : String) : Follows Holds catalog n (s.execute days text).2 := by
  rcases execute_cases s days text with ⟨r, he⟩ | ⟨g, g', message, hg, hedit, he⟩
  . rw [he]
    exact h
  . rw [he]
    apply h.commit hw
    rw [Grid.dayCount_edit hedit, h.dayCount g hg]

theorem move (h : Follows Holds catalog n s) (hw : Storage.Works Holds) (days : DayTable)
    (m : Move) : Follows Holds catalog n (s.move days m) := by
  cases m with
  | load => exact h.load hw
  | execute text => exact h.execute hw days text
  | reload => exact h.reload hw

theorem run (h : Follows Holds catalog n s) (hw : Storage.Works Holds) (days : DayTable)
    (moves : List Move) : Follows Holds catalog n (s.run days moves) := by
  induction moves generalizing s with
  | nil => exact h
  | cons m moves ih =>
    apply ih
    exact h.move hw days m

end Follows

theorem run_follows (hw : Storage.Works Holds) {disk : σ} {saved : Option String}
    (hd : Holds disk saved) (arrivals : List (List String)) (catalog : Catalog) (n : Nat)
    (days : DayTable) (moves : List Move) :
    let s := (Store.new (⟨disk, arrivals⟩ : Shared σ) catalog n).run days moves
    let now := s.disk.since.getLast?.or s.remembered
    let later := s.disk.between.getLast?.or now
    let reloaded := s.reloadIfChanged.1
    let s' := s.reloadIfChanged.2
    (.load ∈ moves → s.isLoaded = true) ∧
    (s.disk.since = [] → now = s.remembered) ∧
    ∀ g, s.grid = some g → Holds s.disk.disk s.remembered ∧ Holds s.disk.current now ∧
      (now = s.remembered →
        g.names = (Grid.ofSaved catalog n now).names ∧
        reloaded = false ∧ s' = { s with disk := s'.disk } ∧ Holds s'.disk.disk now) ∧
      (now ≠ s.remembered →
        reloaded = true ∧ s'.grid = some (Grid.ofSaved catalog n later) ∧
        (later.bind Grid.readNames? = none → s'.grid = some (.empty n)) ∧
        s'.published = ⟨s'.grid, s.published.count + 1⟩ ∧ Holds s'.disk.disk later) := by
  intro s now later reloaded s'
  have hs : Follows Holds catalog n s := (Follows.new hd arrivals catalog n).run hw days moves
  refine ⟨?_, ?_, ?_⟩
  . intro hmem
    exact isLoaded_run_of_mem hmem days _
  . intro hsince
    simp [now, hsince]
  . intro g hg
    have hremembered := hs.remembered g hg
    have hread := Shared.holds_get hw hremembered
    refine ⟨hremembered, Shared.holds_current hw hremembered, ?_, ?_⟩
    . intro hsame
      have heq := reloadIfChanged_of_same hw hg hremembered hsame
      have hs' : s' = _ := congrArg Prod.snd heq
      refine ⟨?_, congrArg Prod.fst heq, ?_, ?_⟩
      . rw [hsame]
        exact hs.names g hg
      . rw [hs']
      . rw [hs']
        exact hread
    . intro hdiffers
      have heq := reloadIfChanged_of_differs hw hremembered hdiffers
      have hlater := Shared.holds_get hw hread
      have hs' : s' = _ := congrArg Prod.snd heq
      rw [load_of_get (Shared.get_works hw hread)] at hs'
      dsimp only at hs'
      rw [Shared.since_get] at hs' hlater
      rw [hs.catalog_eq, hs.dayCount_eq] at hs'
      refine ⟨congrArg Prod.fst heq, ?_, ?_, ?_, ?_⟩
      . rw [hs']
      . intro hmalformed
        rw [hs']
        change some (Grid.ofSaved catalog n later) = _
        unfold Grid.ofSaved
        rw [hmalformed]
      . rw [hs']
      . rw [hs']
        exact hlater

theorem run_follows_memory :
    let catalog : Catalog := ⟨[⟨"Ham", "ham.png"⟩]⟩
    let days : DayTable := ⟨["Mo"], []⟩
    let disk : Memory := ⟨[(menuKey, "no menu")]⟩
    let arrivals := [[], [], ["[[\"Eel\"]]"], ["no menu", "[[\"Ham\", null]]"]]
    let moves : List Move := [.load, .execute "mo-u-t soup"]
    let s := (Store.new (⟨disk, arrivals⟩ : Shared Memory) catalog 1).run days moves
    let s' := s.reloadIfChanged.2
    disk.get? menuKey = some "no menu" ∧ s.grid = some ⟨[⟨.text "soup", .unset⟩]⟩ ∧
    s.disk.disk.get? menuKey = some "[[\"soup\",\"\"]]" ∧
    s.disk.current.get? menuKey = some "[[\"Eel\"]]" ∧
    s.reloadIfChanged.1 = true ∧ s'.grid = some ⟨[⟨.meal ⟨"Ham", "ham.png"⟩, .unset⟩]⟩ ∧
    s'.published = ⟨s'.grid, s.published.count + 1⟩ := by
  intro catalog days disk arrivals moves s s'
  have hd : disk.get? menuKey = some "no menu" := by rfl
  have hg : s.grid = some ⟨[⟨.text "soup", .unset⟩]⟩ := by decide +kernel
  have hremembered : s.remembered = some "[[\"soup\",\"\"]]" := by decide +kernel
  have hrebound : Grid.ofSaved catalog 1 (some "[[\"Ham\", null]]")
      = ⟨[⟨.meal ⟨"Ham", "ham.png"⟩, .unset⟩]⟩ := by decide +kernel
  obtain ⟨_, _, hrun⟩ := run_follows Memory.works hd arrivals catalog 1 days moves
  obtain ⟨hlast, hcurrent, _, hdiffers⟩ := hrun _ hg
  rw [hremembered] at hlast
  obtain ⟨hreloaded, hgrid, _, hpublished, _⟩ := hdiffers (by decide +kernel)
  exact ⟨hd, hg, hlast, hcurrent, hreloaded, hgrid.trans (congrArg some hrebound), hpublished⟩

end Store
end WeekMenu

import WeekMenu.Proofs.Menu.Saved
import WeekMenu.Proofs.Store.Operations

/-!
This module contains the comparison of a session that stays open with one that is closed after every
command. The grids of the two may differ in what their names are bound to, which no command shows.
-/

namespace WeekMenu
namespace Store

variable {σ : Type} [Storage σ]

abbrev Trace := List (Outcome × Except StorageError (Option String))

def session (days : DayTable) (s : Store σ) : List String → Trace
  | [] => []
  | text :: texts =>
    let (outcome, s) := s.execute days text
    (outcome, (Storage.get menuKey s.disk).1) :: session days s texts

def restarts (catalog : Catalog) (days : DayTable) (disk : σ) : List String → Trace
  | [] => []
  | text :: texts =>
    let (outcome, s) := (Store.new disk catalog days.dayCount).load.execute days text
    (outcome, (Storage.get menuKey s.disk).1) :: restarts catalog days s.disk texts

structure UpToDate (Holds : σ → Option String → Prop) (catalog : Catalog) (n : Nat)
    (text : Option String) (s : Store σ) : Prop where
  catalog_eq : s.catalog = catalog
  holds : Holds s.disk text
  grid : ∃ g, s.grid = some g ∧ Grid.Alike g (Grid.ofSaved catalog n text)

namespace UpToDate

variable {Holds : σ → Option String → Prop} {catalog : Catalog} {days : DayTable} {n : Nat}
variable {s : Store σ} {text : Option String}

theorem load (hw : Storage.Works Holds) {disk : σ} (hd : Holds disk text) (catalog : Catalog)
    (n : Nat) : UpToDate Holds catalog n text (Store.new disk catalog n).load where
  catalog_eq := rfl
  holds := hw.get hd
  grid := by
    rw [load_of_get (hw.get_works hd)]
    refine ⟨_, rfl, ?_⟩
    apply Grid.Alike.refl
    apply Grid.named_ofSaved

theorem commit {g : Grid} (h : UpToDate Holds catalog n text s) (hw : Storage.Works Holds)
    (hg : g.Named) (hn : g.dayCount = n) :
    UpToDate Holds catalog n (some g.toSaved) (s.commit g) where
  catalog_eq := by rw [commit_catalog, h.catalog_eq]
  holds := holds_commit hw h.holds g
  grid := ⟨g, commit_grid s g, Grid.alike_ofSaved_toSaved catalog hg hn⟩

theorem execute {s' : Store σ} (h : UpToDate Holds catalog days.dayCount text s)
    (h' : UpToDate Holds catalog days.dayCount text s') (hw : Storage.Works Holds)
    (command : String) :
    (s.execute days command).1 = (s'.execute days command).1 ∧
    ∃ text', UpToDate Holds catalog days.dayCount text' (s.execute days command).2 ∧
      UpToDate Holds catalog days.dayCount text' (s'.execute days command).2 := by
  obtain ⟨g, hg, halike⟩ := h.grid
  obtain ⟨g', hg', halike'⟩ := h'.grid
  have hgg : Grid.Alike g g' := halike.trans halike'.symm
  have hcount : g.dayCount = days.dayCount := by
    rw [halike.dayCount, Grid.dayCount_ofSaved]
  rcases hgg.edit hcount catalog command with ⟨r, he, he'⟩ | ⟨k, k', message, he, he', hkk⟩
  . rw [← h.catalog_eq] at he
    rw [← h'.catalog_eq] at he'
    rw [execute_of_edit_error hg he, execute_of_edit_error hg' he']
    exact ⟨rfl, text, h, h'⟩
  . have hk : k.dayCount = days.dayCount := by
      obtain ⟨_, _, _, _, _, _, _, _, _, _, _, _, rfl⟩ := Grid.edit_eq_ok hcount he
      rw [Grid.dayCount_setDay, hcount]
    rw [← h.catalog_eq] at he
    rw [← h'.catalog_eq] at he'
    rw [execute_of_edit_ok hg he, execute_of_edit_ok hg' he']
    refine ⟨rfl, some k.toSaved, h.commit hw hkk.left hk, ?_⟩
    rw [hkk.toSaved]
    apply h'.commit hw hkk.right
    rw [← hkk.dayCount, hk]

theorem session_eq_restarts_of_upToDate (hw : Storage.Works Holds) (texts : List String) {disk : σ}
    (hd : Holds disk text) (h : UpToDate Holds catalog days.dayCount text s) :
    session days s texts = restarts catalog days disk texts := by
  -- After each command the next store to be started reads the text that the open one has written.
  induction texts generalizing s disk text with
  | nil => rfl
  | cons command texts ih =>
    have hfresh := UpToDate.load hw hd catalog days.dayCount
    obtain ⟨houtcome, text', hs, hs'⟩ := h.execute hfresh hw command
    simp only [session, restarts]
    rw [houtcome, hw.get_works hs.holds, hw.get_works hs'.holds, ih hs'.holds hs]

end UpToDate

theorem session_eq_restarts {Holds : σ → Option String → Prop} (hw : Storage.Works Holds) {disk : σ}
    {saved : Option String} (hd : Holds disk saved) (catalog : Catalog) (days : DayTable)
    (texts : List String) :
    session days (Store.new disk catalog days.dayCount).load texts
      =
    restarts catalog days disk texts := by
  apply UpToDate.session_eq_restarts_of_upToDate hw texts hd
  exact UpToDate.load hw hd catalog days.dayCount

theorem session_eq_restarts_folder :
    let catalog : Catalog := ⟨[⟨"Ham", "ham.png"⟩]⟩
    let days : DayTable := ⟨["Mo"], []⟩
    let disk : Folder := (Storage.set menuKey "no menu" (⟨"store", .empty⟩ : Folder)).2
    let texts := ["mo-u-t Ham", "mo-l-s ham", "mo-u-clear"]
    disk.Ready ∧ disk.Holds (some "no menu") ∧
    session days (new disk catalog days.dayCount).load texts
      =
    restarts catalog days disk texts := by
  intro catalog days disk texts
  have hname : FileName "store" := ⟨by decide, by decide, by decide, by decide⟩
  have hd : disk.Ready ∧ disk.Holds (some "no menu") :=
    Folder.works.holds_set (Folder.start hname (by decide)) "no menu"
  exact ⟨hd.1, hd.2, session_eq_restarts Folder.works hd catalog days texts⟩

end Store
end WeekMenu

import WeekMenu.Planner
import WeekMenu.Proofs.History.Text
import WeekMenu.Proofs.Storage.FileTree

/-!
This module contains facts about the history of commands. What is kept in its file can be loaded
again. The file does not get in the way of other files: what can be read before the history is kept
can be read afterwards, unless the history is kept in that very file.
-/

namespace WeekMenu

theorem History.head?_remember (recents : List String) {command : String}
    (h : Text.trim command ≠ "") :
    (remember recents command).head? = some (Text.trim command) := by
  unfold remember
  dsimp only
  rw [if_neg (by rwa [String.isEmpty_iff])]
  rfl

theorem History.save_cases (files : FileTree) (path : String) (recents : List String) :
    ∃ created, (∀ changed, FileTree.KeptBut changed files created) ∧
      (save files path recents = created ∨
        created.write path (toText recents) = .ok (save files path recents)) := by
  unfold save
  cases hok : files.createDirectories (directory path) with
  | error e =>
    refine ⟨files, .refl files, ?_⟩
    dsimp only
    split
    . next hwrite => exact Or.inr hwrite
    . exact Or.inl rfl
  | ok created =>
    refine ⟨created, .createBelow hok, ?_⟩
    dsimp only
    split
    . next hwrite => exact Or.inr hwrite
    . exact Or.inl rfl

theorem History.read_save {files : FileTree} {file text : String}
    (hread : files.read file = .ok text) (path : String) (recents : List String) :
    (save files path recents).read file = .ok text ∨
    (save files path recents).place path = (save files path recents).place file := by
  obtain ⟨created, hcreated, hsave | hwrite⟩ := save_cases files path recents
  . rw [hsave]
    exact ((hcreated []).read hread).imp_right (by simp)
  . obtain ⟨place, hplace, hwritten⟩ := FileTree.KeptBut.write hwrite
    rw [hwritten.place hplace]
    exact (((hcreated [place]).trans hwritten).read hread).imp_right (by simp [eq_comm])

def History.Saves (files : FileTree) (path : String) (recents : List String) : Prop :=
  ∃ written, ((files.createDirectories (directory path)).toOption.getD files).write path
    (toText recents) = .ok written

theorem History.load_save {files : FileTree} {path : String} {recents : List String}
    (h : Saves files path recents) : load (save files path recents) path = recents := by
  obtain ⟨written, hwrite⟩ := h
  have hsave : save files path recents = written := by
    unfold save
    cases hcreated : files.createDirectories (directory path) with
    | error e =>
      rw [hcreated, Except.toOption, Option.getD_none] at hwrite
      dsimp only
      rw [hwrite]
    | ok created =>
      rw [hcreated, Except.toOption, Option.getD_some] at hwrite
      dsimp only
      rw [hwrite]
  unfold load
  rw [hsave, FileTree.read_of_write hwrite]
  exact ofText_toText recents

theorem Planner.load_keepHistory {p : Planner} {path : String} {recents : List String}
    (h : History.Saves p.store.disk.files path recents) :
    History.load (p.keepHistory (some path) (some recents)).store.disk.files path = recents := by
  have hsave := History.load_save h
  unfold keepHistory saveHistory withFiles
  dsimp only
  exact hsave

theorem Planner.keepHistory_none (p : Planner) (path : Option String) :
    p.keepHistory path none = p := by
  cases path <;> rfl

theorem Planner.get_keepHistory {p : Planner} {text : String}
    (h : (Storage.get menuKey p.store.disk).1 = .ok (some text)) (path : Option String)
    (recents : Option (List String)) :
    (Storage.get menuKey (p.keepHistory path recents).store.disk).1 = .ok (some text) ∨
    ∃ history ∈ path, ∃ menu ∈ p.store.location,
      (p.keepHistory path recents).store.disk.files.place history =
        (p.keepHistory path recents).store.disk.files.place menu := by
  unfold keepHistory
  split
  . next history recents =>
    unfold saveHistory withFiles Store.location
    simp only [Storage.get, Storage.location, Disk.peek] at h ⊢
    split at h
    . cases h
    . next hworks =>
      rw [if_neg hworks]
      cases hplace : p.store.disk.place with
      | memory =>
        rw [hplace] at h
        exact Or.inl h
      | folder root =>
        rw [hplace] at h
        obtain ⟨menu, hmenu, hread⟩ := Folder.read_eq_some_iff.mp h
        rcases History.read_save hread history recents with hsame | htaken
        . exact Or.inl (Folder.read_eq_some_iff.mpr ⟨menu, hmenu, hsame⟩)
        . right
          refine ⟨history, rfl, menu, ?_, htaken⟩
          change menu ∈ (Folder.path? root menuKey).toOption
          rw [hmenu]
          rfl
  . exact Or.inl h

end WeekMenu

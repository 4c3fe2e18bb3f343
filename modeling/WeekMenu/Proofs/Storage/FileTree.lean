import WeekMenu.Proofs.Lookup
import WeekMenu.Storage.Folder

/-!
This module contains facts about trees of files: what can be read, and what is left alone where a
file is written or moved or a directory is created.
-/

namespace WeekMenu

namespace FileTree

theorem node?_put_of_ne {t : FileTree} {place other : List String} (h : place ≠ other)
    (n : FileNode) : (t.put other n).node? place = t.node? place := by
  unfold node? put
  dsimp only
  rw [List.lookup_cons, beq_eq_false_iff_ne.mpr h, lookup_filter_ne h]

theorem node?_erase_of_ne {t : FileTree} {place other : List String} (h : place ≠ other) :
    (t.erase other).node? place = t.node? place := by
  unfold node? erase
  rw [lookup_filter_ne h]

theorem node?_erase {t : FileTree} {place : List String} (h : place ≠ []) :
    (t.erase place).node? place = none := by
  unfold node? erase
  rw [if_neg (by simpa using h), List.lookup_eq_none_iff]
  intro e he
  simpa [bne_comm] using (List.mem_filter.mp he).2

theorem node?_put {t : FileTree} {place : List String} (h : place ≠ []) (n : FileNode) :
    (t.put place n).node? place = some n := by
  unfold node? put
  rw [if_neg (by simpa using h)]
  exact List.lookup_cons_self

theorem read_ok_iff {t : FileTree} {path text : String} :
    t.read path = .ok text ↔
      ∃ place, t.place path = .ok place ∧ t.node? place = some (.file text) := by
  unfold read
  cases t.place path with
  | error e => simp [bind, Except.bind]
  | ok place =>
    cases h : t.node? place with
    | none => simp [h, bind, Except.bind]
    | some n => cases n <;> simp [h, bind, Except.bind, pure, Except.pure]

theorem contains_of_read {t : FileTree} {path text : String} (h : t.read path = .ok text) :
    t.contains path = true := by
  obtain ⟨place, hplace, hfile⟩ := read_ok_iff.mp h
  unfold contains
  rw [hplace]
  dsimp only
  rw [hfile]
  rfl

theorem contains_congr {t u : FileTree} {path : String} (hplace : u.place path = t.place path)
    (h : ∀ place, t.place path = .ok place → u.node? place = t.node? place) :
    u.contains path = t.contains path := by
  unfold contains
  rw [hplace]
  cases hfound : t.place path with
  | error e => rfl
  | ok place => exact congrArg Option.isSome (h place hfound)

theorem read_congr {t u : FileTree} {path : String} (hplace : u.place path = t.place path)
    (h : ∀ place, t.place path = .ok place → u.node? place = t.node? place) :
    u.read path = t.read path := by
  unfold read
  rw [hplace]
  cases hfound : t.place path with
  | error e => rfl
  | ok place =>
    simp only [bind, Except.bind]
    rw [h place hfound]

theorem write_ok {t u : FileTree} {path content : String} (h : t.write path content = .ok u) :
    ∃ place, t.place path = .ok place ∧ t.node? place ≠ some .directory ∧
      u = t.put place (.file content) := by
  unfold write at h
  cases hplace : t.place path with
  | error e =>
    rw [hplace] at h
    cases h
  | ok place =>
    rw [hplace] at h
    simp only [bind, Except.bind] at h
    split at h
    . cases h
    . next hdirectory =>
      cases h
      exact ⟨place, rfl, hdirectory, rfl⟩

theorem rename_ok {t u : FileTree} {source target : String} (h : t.rename source target = .ok u) :
    ∃ content sourcePlace targetPlace, t.read source = .ok content ∧
      t.place source = .ok sourcePlace ∧ t.place target = .ok targetPlace ∧
      t.node? targetPlace ≠ some .directory ∧
      u = (t.erase sourcePlace).put targetPlace (.file content) := by
  unfold rename at h
  cases hread : t.read source with
  | error e =>
    rw [hread] at h
    cases h
  | ok content =>
    obtain ⟨sourcePlace, hsource, hfile⟩ := read_ok_iff.mp hread
    rw [hread, hsource] at h
    cases htarget : t.place target with
    | error e =>
      rw [htarget] at h
      cases h
    | ok targetPlace =>
      rw [htarget] at h
      simp only [bind, Except.bind] at h
      split at h
      . cases h
      . next hdirectory =>
        cases h
        exact ⟨content, sourcePlace, targetPlace, rfl, hsource, rfl, hdirectory, rfl⟩

theorem createBelow_cons {t u : FileTree} {start rest : List String} {name : String} :
    t.createBelow start (name :: rest) = .ok u ↔
      ∃ next, t.follow start [name] = .ok next ∧
        (t.node? next = some .directory ∧ t.createBelow next rest = .ok u ∨
        t.node? next = none ∧ (t.put next .directory).createBelow next rest = .ok u) := by
  rw [createBelow]
  cases hnext : t.follow start [name] with
  | error e => simp [bind, Except.bind]
  | ok next =>
    simp only [bind, Except.bind, Except.ok.injEq, exists_eq_left']
    split
    . next hnode => simp [hnode]
    . next hnode => simp [hnode, throw, throwThe, MonadExceptOf.throw]
    . next hnode => simp [hnode]

structure KeptBut (changed : List (List String)) (t u : FileTree) : Prop where
  directory : ∀ {place}, t.node? place = some .directory → u.node? place = some .directory
  file : ∀ {place content}, place ∉ changed → t.node? place = some (.file content) →
    u.node? place = some (.file content)

namespace KeptBut

variable {changed : List (List String)} {t u v : FileTree}

theorem refl (t : FileTree) (changed : List (List String)) : KeptBut changed t t :=
  ⟨id, fun _ => id⟩

theorem trans (h : KeptBut changed t u) (h' : KeptBut changed u v) : KeptBut changed t v :=
  ⟨fun hd => h'.directory (h.directory hd), fun hne hf => h'.file hne (h.file hne hf)⟩

theorem put_directory {place : List String} (h : t.node? place = none)
    (changed : List (List String)) : KeptBut changed t (t.put place .directory) := by
  constructor
  . intro other hother
    rwa [node?_put_of_ne (by rintro rfl; simp [h] at hother)]
  . intro other content _ hother
    rwa [node?_put_of_ne (by rintro rfl; simp [h] at hother)]

theorem put_file {place : List String} (h : t.node? place ≠ some .directory) (content : String) :
    KeptBut [place] t (t.put place (.file content)) := by
  constructor
  . intro other hother
    rwa [node?_put_of_ne (by rintro rfl; exact h hother)]
  . intro other _ hne hother
    rwa [node?_put_of_ne (by simpa using hne)]

theorem follow (h : KeptBut changed t u) {start place names : List String}
    (hplace : t.follow start names = .ok place) : u.follow start names = .ok place := by
  induction names generalizing start with
  | nil => exact hplace
  | cons name rest ih =>
    unfold FileTree.follow at hplace ⊢
    split at hplace
    . cases hplace
    . cases hplace
    . next hdirectory =>
      rw [h.directory hdirectory]
      dsimp only
      split at hplace
      . next hdot =>
        rw [if_pos hdot]
        exact ih hplace
      . next hdot =>
        rw [if_neg hdot]
        split at hplace
        . next hup =>
          rw [if_pos hup]
          exact ih hplace
        . next hup =>
          rw [if_neg hup]
          split at hplace
          . cases hplace
          . next hlong =>
            rw [if_neg hlong]
            exact ih hplace

theorem place (h : KeptBut changed t u) {path : String} {place : List String}
    (hplace : t.place path = .ok place) : u.place path = .ok place := by
  unfold FileTree.place at hplace ⊢
  split at hplace
  . cases hplace
  . exact h.follow hplace

theorem read (h : KeptBut changed t u) {path text : String} (hread : t.read path = .ok text) :
    u.read path = .ok text ∨ ∃ place ∈ changed, u.place path = .ok place := by
  obtain ⟨place, hplace, hfile⟩ := read_ok_iff.mp hread
  by_cases hchanged : place ∈ changed
  . right
    exact ⟨place, hchanged, h.place hplace⟩
  . left
    exact read_ok_iff.mpr ⟨place, h.place hplace, h.file hchanged hfile⟩

theorem createBelow {start names : List String} (h : t.createBelow start names = .ok u)
    (changed : List (List String)) : KeptBut changed t u := by
  induction names generalizing t start with
  | nil =>
    cases h
    exact refl _ changed
  | cons name rest ih =>
    obtain ⟨next, _, ⟨_, hrest⟩ | ⟨hnone, hrest⟩⟩ := createBelow_cons.mp h
    . exact ih hrest
    . exact (put_directory hnone changed).trans (ih hrest)

theorem rename {source target : String} (h : t.rename source target = .ok u) :
    ∃ sourcePlace targetPlace, t.place source = .ok sourcePlace ∧ t.place target = .ok targetPlace ∧
      KeptBut [sourcePlace, targetPlace] t u := by
  obtain ⟨content, sourcePlace, targetPlace, hread, hsource, htarget, hdirectory, rfl⟩ :=
    rename_ok h
  obtain ⟨place, hplace, hfile⟩ := read_ok_iff.mp hread
  obtain rfl := Except.ok.inj (hplace.symm.trans hsource)
  have hother {other : List String} (hne : other ≠ place) (hne' : other ≠ targetPlace) :
      ((t.erase place).put targetPlace (.file content)).node? other = t.node? other := by
    rw [node?_put_of_ne hne', node?_erase_of_ne hne]
  refine ⟨place, targetPlace, hsource, htarget, ?_, ?_⟩
  . intro other hdir
    rwa [hother (by rintro rfl; simp [hfile] at hdir) (by rintro rfl; exact hdirectory hdir)]
  . intro other content' hne hother'
    rw [List.mem_cons, List.mem_singleton, not_or] at hne
    rwa [hother hne.1 hne.2]

theorem write {path content : String} (h : t.write path content = .ok u) :
    ∃ place, t.place path = .ok place ∧ KeptBut [place] t u := by
  obtain ⟨place, hplace, hdirectory, rfl⟩ := write_ok h
  exact ⟨place, hplace, put_file hdirectory content⟩

end KeptBut

theorem read_of_write {t u : FileTree} {path content : String}
    (h : t.write path content = .ok u) : u.read path = .ok content := by
  obtain ⟨place, hplace, hdirectory, rfl⟩ := write_ok h
  have hne : place ≠ [] := by
    rintro rfl
    exact hdirectory rfl
  exact read_ok_iff.mpr
    ⟨place, (KeptBut.put_file hdirectory content).place hplace, node?_put hne _⟩

end FileTree

theorem Folder.read_eq_some_iff {root key text : String} {files : FileTree} :
    read root key files = .ok (some text) ↔
      ∃ path, path? root key = .ok path ∧ files.read path = .ok text := by
  unfold read
  cases path? root key with
  | error e => simp [bind, Except.bind]
  | ok path =>
    simp only [bind, Except.bind, Except.ok.injEq, exists_eq_left']
    constructor
    . intro h
      split at h
      . split at h
        . next hread =>
          cases h
          exact hread
        . cases h
      . cases h
    . intro h
      rw [if_pos (FileTree.contains_of_read h), h]
      rfl

end WeekMenu

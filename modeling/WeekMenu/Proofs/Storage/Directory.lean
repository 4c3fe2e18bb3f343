import WeekMenu.Proofs.Storage.Path

/-!
This module contains facts about the directory that a path leads to: it is there once it has been
created, is not created twice, and what it holds is one step further.
-/

namespace WeekMenu
namespace FileTree

theorem follow_append (t : FileTree) (start names rest : List String) :
    t.follow start (names ++ rest) = (t.follow start names).bind (t.follow · rest) := by
  induction names generalizing start with
  | nil => rfl
  | cons name names ih =>
    rw [List.cons_append, follow, follow]
    split
    . rfl
    . rfl
    . split
      . exact ih _
      . split
        . exact ih _
        . split
          . rfl
          . exact ih _

theorem follow_cons {t : FileTree} {start place names : List String} {name : String}
    (h : t.follow start (name :: names) = .ok place) :
    t.node? start = some .directory ∧
      ∃ next, t.follow start [name] = .ok next ∧ t.follow next names = .ok place := by
  have happend := t.follow_append start [name] names
  rw [List.singleton_append, h] at happend
  constructor
  . unfold follow at h
    split at h
    . cases h
    . cases h
    . next hdirectory => exact hdirectory
  . cases hnext : t.follow start [name] with
    | error e =>
      rw [hnext] at happend
      cases happend
    | ok next =>
      rw [hnext] at happend
      exact ⟨next, rfl, happend.symm⟩

theorem follow_here {t : FileTree} {place : List String} (h : t.node? place = some .directory) :
    t.follow place ["."] = .ok place := by
  unfold follow
  rw [h]
  rfl

theorem follow_fileName {t : FileTree} {place : List String} (h : t.node? place = some .directory)
    {name : String} (hname : FileName name) :
    t.follow place [name] =
      if name.utf8ByteSize > 255 then .error .nameTooLong else .ok (place ++ [name]) := by
  unfold follow
  rw [h]
  dsimp only
  rw [if_neg (by simpa using hname.ne_here), if_neg (by simpa using hname.ne_above)]
  rfl

theorem place_joinPath (t : FileTree) (path : String) {name : String} (hname : FileName name) :
    t.place (joinPath path name) = (t.follow [] (namesOf path)).bind (t.follow · [name]) := by
  have hsteps := steps_joinPath path hname
  unfold place
  rw [hsteps]
  split
  . next hnil => simp at hnil
  . exact follow_append _ _ _ _

structure HasDirectory (t : FileTree) (path : String) (place : List String) : Prop where
  follow : t.follow [] (namesOf path) = .ok place
  directory : t.node? place = some .directory

namespace HasDirectory

variable {changed : List (List String)} {t u : FileTree} {path name : String} {place : List String}

theorem kept (h : t.HasDirectory path place) (hkept : KeptBut changed t u) :
    u.HasDirectory path place :=
  ⟨hkept.follow h.follow, hkept.directory h.directory⟩

theorem of_follow_steps (hfollow : t.follow [] (steps path) = .ok place)
    (hdirectory : t.node? place = some .directory) : t.HasDirectory path place := by
  rw [steps_eq, follow_append] at hfollow
  cases hnames : t.follow [] (namesOf path) with
  | error e =>
    rw [hnames] at hfollow
    cases hfollow
  | ok start =>
    rw [hnames] at hfollow
    change t.follow start _ = .ok place at hfollow
    split at hfollow
    . -- The step for the slash at the end stays where it is.
      have hstart := (follow_cons hfollow).1
      rw [follow_here hstart] at hfollow
      cases hfollow
      exact ⟨hnames, hdirectory⟩
    . cases hfollow
      exact ⟨hnames, hdirectory⟩

theorem follow_steps (h : t.HasDirectory path place) : t.follow [] (steps path) = .ok place := by
  rw [steps_eq, follow_append, h.follow]
  change t.follow place _ = .ok place
  split
  . exact follow_here h.directory
  . rfl

theorem place_fileName (h : t.HasDirectory path place) (hname : FileName name) :
    t.place (joinPath path name) =
      if name.utf8ByteSize > 255 then .error .nameTooLong else .ok (place ++ [name]) := by
  rw [place_joinPath t path hname, h.follow]
  exact follow_fileName h.directory hname

theorem place_short (h : t.HasDirectory path place) (hname : FileName name)
    (hshort : name.utf8ByteSize ≤ 255) : t.place (joinPath path name) = .ok (place ++ [name]) := by
  rw [h.place_fileName hname, if_neg (by omega)]

theorem eq_of_place {found : List String} (h : t.HasDirectory path place) (hname : FileName name)
    (hfound : t.place (joinPath path name) = .ok found) : found = place ++ [name] := by
  rw [h.place_fileName hname] at hfound
  split at hfound
  . cases hfound
  . exact (Except.ok.inj hfound).symm

theorem write_eq (h : t.HasDirectory path place) (hname : FileName name)
    (hshort : name.utf8ByteSize ≤ 255) (hnode : t.node? (place ++ [name]) ≠ some .directory)
    (content : String) :
    t.write (joinPath path name) content = .ok (t.put (place ++ [name]) (.file content)) := by
  unfold write
  rw [h.place_short hname hshort]
  simp only [bind, Except.bind]
  rfl

theorem rename_eq {source content : String} (h : t.HasDirectory path place)
    (hsource : FileName source) (hname : FileName name) (hshort : source.utf8ByteSize ≤ 255)
    (hshort' : name.utf8ByteSize ≤ 255) (hnode : t.node? (place ++ [name]) ≠ some .directory)
    (hread : t.read (joinPath path source) = .ok content) :
    t.rename (joinPath path source) (joinPath path name) =
      .ok ((t.erase (place ++ [source])).put (place ++ [name]) (.file content)) := by
  unfold rename
  rw [hread, h.place_short hsource hshort, h.place_short hname hshort']
  simp only [bind, Except.bind]
  rfl

end HasDirectory

theorem exists_hasDirectory {t : FileTree} {path name : String} (hname : FileName name)
    (h : t.contains (joinPath path name) = true) : ∃ place, t.HasDirectory path place := by
  unfold contains at h
  split at h
  . next found hfound =>
    rw [place_joinPath t path hname] at hfound
    cases hfollow : t.follow [] (namesOf path) with
    | error e =>
      rw [hfollow] at hfound
      cases hfound
    | ok place =>
      rw [hfollow] at hfound
      have hlast : t.follow place [name] = .ok found := hfound
      exact ⟨place, hfollow, (follow_cons hlast).1⟩
  . cases h

theorem createBelow_directory {t u : FileTree} {start names : List String}
    (h : t.createBelow start names = .ok u) (hstart : t.node? start = some .directory) :
    ∃ place, u.follow start names = .ok place ∧ u.node? place = some .directory := by
  induction names generalizing t start with
  | nil =>
    cases h
    exact ⟨start, rfl, hstart⟩
  | cons name rest ih =>
    have hkept := KeptBut.createBelow h []
    obtain ⟨next, hnext, hmade⟩ := createBelow_cons.mp h
    have hplace : ∃ place, u.follow next rest = .ok place ∧ u.node? place = some .directory := by
      rcases hmade with ⟨hdirectory, hrest⟩ | ⟨hnone, hrest⟩
      . exact ih hrest hdirectory
      . exact ih hrest (node?_put (by rintro rfl; cases hnone) _)
    obtain ⟨place, hfollow, hdirectory⟩ := hplace
    refine ⟨place, ?_, hdirectory⟩
    rw [← List.singleton_append, follow_append, hkept.follow hnext]
    exact hfollow

theorem createBelow_of_follow {t : FileTree} {start place names : List String}
    (h : t.follow start names = .ok place) (hdirectory : t.node? place = some .directory) :
    t.createBelow start names = .ok t := by
  induction names generalizing start with
  | nil => rfl
  | cons name rest ih =>
    obtain ⟨_, next, hnext, hrest⟩ := follow_cons h
    have hnode : t.node? next = some .directory := by
      cases rest with
      | nil =>
        cases hrest
        exact hdirectory
      | cons name' rest => exact (follow_cons hrest).1
    exact createBelow_cons.mpr ⟨next, hnext, Or.inl ⟨hnode, ih hrest⟩⟩

theorem createBelow_again {t u v : FileTree} {start names rest : List String}
    (h : t.createBelow start names = .ok u) (h' : u.createBelow start (names ++ rest) = .ok v) :
    t.createBelow start (names ++ rest) = .ok v := by
  induction names generalizing t start with
  | nil =>
    cases h
    exact h'
  | cons name names ih =>
    have hkept := KeptBut.createBelow h []
    obtain ⟨next, hnext, hmade⟩ := createBelow_cons.mp h
    obtain ⟨next', hnext', hmade'⟩ := createBelow_cons.mp h'
    obtain rfl := Except.ok.inj ((hkept.follow hnext).symm.trans hnext')
    have hthere : u.node? next = some .directory := by
      rcases hmade with ⟨hdirectory, _⟩ | ⟨hnone, hrest⟩
      . exact hkept.directory hdirectory
      . exact (KeptBut.createBelow hrest []).directory (node?_put (by rintro rfl; cases hnone) _)
    -- The first go has made the directory, so the second one finds it.
    have hrest' : u.createBelow next (names ++ rest) = .ok v := by
      rcases hmade' with ⟨_, hrest'⟩ | ⟨hnone, _⟩
      . exact hrest'
      . rw [hthere] at hnone
        cases hnone
    refine createBelow_cons.mpr ⟨next, hnext, ?_⟩
    rcases hmade with ⟨hdirectory, hrest⟩ | ⟨hnone, hrest⟩
    . exact Or.inl ⟨hdirectory, ih hrest hrest'⟩
    . exact Or.inr ⟨hnone, ih hrest hrest'⟩

theorem createDirectories_again {t u v : FileTree} {path : String} {n : Nat}
    (h : t.createBelow [] ((steps path).take n) = .ok u) (h' : u.createDirectories path = .ok v) :
    t.createDirectories path = .ok v := by
  unfold createDirectories at h' ⊢
  rw [← List.take_append_drop n (steps path)] at h' ⊢
  exact createBelow_again h h'

theorem exists_hasDirectory_of_createDirectories {t u : FileTree} {path : String}
    (h : t.createDirectories path = .ok u) : ∃ place, u.HasDirectory path place := by
  obtain ⟨place, hfollow, hdirectory⟩ := createBelow_directory h rfl
  exact ⟨place, .of_follow_steps hfollow hdirectory⟩

theorem HasDirectory.createDirectories {t : FileTree} {path : String} {place : List String}
    (h : t.HasDirectory path place) : t.createDirectories path = .ok t := by
  exact createBelow_of_follow h.follow_steps h.directory

theorem hasDirectory_put_empty {name : String} (hname : FileName name)
    (hshort : name.utf8ByteSize ≤ 255) :
    (empty.put [name] .directory).HasDirectory name [name] where
  follow := by
    rw [namesOf_fileName hname, follow_fileName rfl hname, if_neg (by omega)]
    rfl
  directory := node?_put (by simp) _

theorem createDirectories_empty {name : String} (hname : FileName name)
    (hshort : name.utf8ByteSize ≤ 255) :
    empty.createDirectories name = .ok (empty.put [name] .directory) := by
  have hsteps : steps name = [name] := by
    have hslash : ¬("" ++ name).endsWith "/" = true := not_endsWith_slash "" hname
    rw [String.empty_append] at hslash
    rw [steps_eq, namesOf_fileName hname, if_neg hslash]
    rfl
  have hfollow : empty.follow [] [name] = .ok [name] := by
    rw [follow_fileName rfl hname, if_neg (by omega)]
    rfl
  unfold createDirectories
  rw [hsteps, createBelow_cons]
  exact ⟨[name], hfollow, Or.inr ⟨rfl, rfl⟩⟩

end FileTree
end WeekMenu

import WeekMenu.Proofs.Store.Operations

/-!
This module contains the check for changes on a storage whose reads may fail. The text that was read
or written last is kept beside the storage, so that it can be compared with what the store remembers
of it.
-/

namespace WeekMenu

/--
A storage, and the text of the menu that the last access to it has shown: the text that was read, or
the one that was written. An access that fails shows nothing.
-/
structure Tracked (σ : Type) where
  disk : σ
  last : Option String
  deriving DecidableEq, Repr

instance [Storage σ] : Storage (Tracked σ) where
  get key t :=
    let (result, disk) := Storage.get key t.disk
    (result, ⟨disk, result.toOption.getD t.last⟩)
  set key value t :=
    let (result, disk) := Storage.set key value t.disk
    (result, ⟨disk, if result.isOk then some value else t.last⟩)
  location key t := Storage.location key t.disk

namespace Store

inductive Operation where
  | load
  | reload
  | save
  | put (day : Nat) (zone : Zone) (e : Entry)
  | notify
  | execute (text : String)
  deriving DecidableEq, Repr

variable {σ : Type} [Storage σ]

def operate (days : DayTable) (s : Store σ) : Operation → Store σ
  | .load => s.load
  | .reload => s.reloadIfChanged.2
  | .save => s.save
  | .put day zone e => s.put day zone e
  | .notify => s.notify
  | .execute text => (s.execute days text).2

theorem reloadIfChanged_keeps_iff {s : Store σ} (h : s.isLoaded = true) :
    (s.reloadIfChanged.1 = false ∧
        s.reloadIfChanged.2 = { s with disk := s.reloadIfChanged.2.disk })
      ↔
    s.readSaved.1 = s.remembered := by
  rcases reloadIfChanged_cases s with ⟨_, hsame, heq⟩ | ⟨hunloaded | hdiffers, heq⟩
  . rw [heq]
    exact iff_of_true ⟨rfl, rfl⟩ hsame
  . rw [h] at hunloaded
    cases hunloaded
  . rw [heq]
    exact iff_of_false (fun hkept => by cases hkept.1) hdiffers

theorem reloadIfChanged_of_fst {s : Store σ} (h : s.reloadIfChanged.1 = true) :
    s.reloadIfChanged.2 = s.readSaved.2.load := by
  rcases reloadIfChanged_cases s with ⟨_, _, heq⟩ | ⟨_, heq⟩
  . rw [heq] at h
    cases h
  . rw [heq]

theorem load_of_get_error {s : Store σ} {e : StorageError}
    (h : (Storage.get menuKey s.disk).1 = .error e) :
    s.load = { s with
      disk := (Storage.get menuKey s.disk).2
      grid := some (.empty s.dayCount)
      remembered := none
      published := ⟨some (.empty s.dayCount), s.published.count + 1⟩ } := by
  have hread : s.readSaved.1 = none := by
    rw [readSaved_fst, h]
    rfl
  rw [load_eq, hread]
  rfl

def Recalls (s : Store (Tracked σ)) : Prop :=
  s.remembered = s.disk.last ∨ s.remembered = none

namespace Recalls

variable {s : Store (Tracked σ)}

omit [Storage σ] in
theorem new (disk : σ) (catalog : Catalog) (n : Nat) :
    (Store.new (⟨disk, none⟩ : Tracked σ) catalog n).Recalls :=
  Or.inl rfl

theorem readSaved_cases (s : Store (Tracked σ)) :
    (∃ text, (Storage.get menuKey s.disk.disk).1 = .ok text ∧ s.readSaved.1 = text ∧
      s.readSaved.2.disk.last = text) ∨
    (∃ e, (Storage.get menuKey s.disk.disk).1 = .error e ∧ s.readSaved.1 = none ∧
      s.readSaved.2.disk.last = s.disk.last) := by
  have hread : s.readSaved.1 = (Storage.get menuKey s.disk.disk).1.toOption.join := by
    rfl
  have hlast : s.readSaved.2.disk.last =
      (Storage.get menuKey s.disk.disk).1.toOption.getD s.disk.last := by
    rfl
  rw [hread, hlast]
  cases (Storage.get menuKey s.disk.disk).1 with
  | ok text => exact Or.inl ⟨text, rfl, rfl, rfl⟩
  | error e => exact Or.inr ⟨e, rfl, rfl, rfl⟩

theorem load (s : Store (Tracked σ)) : s.load.Recalls := by
  rcases readSaved_cases s with ⟨text, _, hread, hlast⟩ | ⟨e, _, hread, _⟩
  . exact Or.inl (hread.trans hlast.symm)
  . exact Or.inr hread

theorem reload (s : Store (Tracked σ)) : s.reloadIfChanged.2.Recalls := by
  rcases reloadIfChanged_cases s with ⟨_, hsame, heq⟩ | ⟨_, heq⟩
  . rw [heq]
    rcases readSaved_cases s with ⟨text, _, hread, hlast⟩ | ⟨e, _, hread, _⟩
    . exact Or.inl (hsame.symm.trans (hread.trans hlast.symm))
    . exact Or.inr (hsame.symm.trans hread)
  . rw [heq]
    exact load _

theorem save (h : s.Recalls) : s.save.Recalls := by
  cases hg : s.grid with
  | none =>
    unfold Store.save
    rw [hg]
    exact h
  | some g =>
    rw [save_eq hg]
    unfold Recalls
    simp only [Storage.set]
    cases Storage.set menuKey g.toSaved s.disk.disk with
    | mk result disk =>
      cases result with
      | ok => exact Or.inl rfl
      | error e => exact h

theorem execute (h : s.Recalls) (days : DayTable) (text : String) :
    (s.execute days text).2.Recalls := by
  rcases execute_cases s days text with ⟨r, he⟩ | ⟨g, g', message, _, _, he⟩
  . rw [he]
    exact h
  . rw [he]
    -- A commit saves the new grid; the publication has nothing to do with the storage.
    have hgrid : ({ s with grid := some g' } : Store (Tracked σ)).Recalls := h
    exact hgrid.save

theorem operate (h : s.Recalls) (days : DayTable) (op : Operation) :
    (s.operate days op).Recalls := by
  cases op with
  | load => exact load s
  | reload => exact reload s
  | save => exact h.save
  | put => exact h
  | notify => exact h
  | execute text => exact h.execute days text

theorem foldl_operate (h : s.Recalls) (days : DayTable) (ops : List Operation) :
    (ops.foldl (Store.operate days) s).Recalls := by
  induction ops generalizing s with
  | nil => exact h
  | cons op ops ih =>
    apply ih
    exact h.operate days op

end Recalls

variable {Holds : σ → Option String → Prop}

theorem readSaved_eq_remembered_iff (ht : Storage.Truthful Holds) {s : Store (Tracked σ)}
    (hd : Holds s.disk.disk s.disk.last) :
    s.readSaved.1 = s.remembered ↔
      ((Storage.get menuKey s.disk.disk).1.isOk = true ∧ s.remembered = s.disk.last) ∨
      ((Storage.get menuKey s.disk.disk).1.isOk = false ∧ s.remembered = none) := by
  rcases Recalls.readSaved_cases s with ⟨text, hget, hread, _⟩ | ⟨e, hget, hread, _⟩
  . have htext := ht.get_ok hd hget
    rw [hread, htext, hget]
    simp [Except.isOk, Except.toBool, eq_comm]
  . rw [hread, hget]
    simp [Except.isOk, Except.toBool, eq_comm]

/--
Whatever was asked of a store before and whichever reads and writes failed, it remembers the text
that it has read or written last, or nothing. As long as that text is the entry, a check for changes
keeps the store as it is if the store remembers the text and the check can read it, and also if
neither is so. In between, the store loads a menu that has not changed, and if the entry cannot be
read then either, the week is lost.
-/
theorem recheck_keeps_iff (ht : Storage.Truthful Holds) (disk : σ) (catalog : Catalog) (n : Nat)
    (days : DayTable) (ops : List Operation) :
    let s := ops.foldl (operate days) (Store.new (⟨disk, none⟩ : Tracked σ) catalog n)
    let (first, disk') := Storage.get menuKey s.disk.disk
    let second := (Storage.get menuKey disk').1
    let (reloaded, s') := s.reloadIfChanged
    s.isLoaded = true → Holds s.disk.disk s.disk.last →
      (s.remembered = s.disk.last ∨ s.remembered = none) ∧
      ((reloaded = false ∧ s' = { s with disk := s'.disk }) ↔
        (first.isOk = true ∧ s.remembered = s.disk.last) ∨
        (first.isOk = false ∧ s.remembered = none)) ∧
      (reloaded = true → ∀ e, second = .error e →
        s'.grid = some (.empty s.dayCount) ∧ s'.remembered = none ∧
        s'.published = ⟨some (.empty s.dayCount), s.published.count + 1⟩) := by
  intro s
  have hs : s.Recalls := (Recalls.new disk catalog n).foldl_operate days ops
  dsimp only
  intro hloaded hd
  refine ⟨hs, ?_, ?_⟩
  . rw [← readSaved_eq_remembered_iff ht hd]
    exact reloadIfChanged_keeps_iff hloaded
  . intro hreloaded e hsecond
    have hread : (Storage.get menuKey s.readSaved.2.disk).1 = .error e := hsecond
    rw [reloadIfChanged_of_fst hreloaded, load_of_get_error hread]
    exact ⟨rfl, rfl, rfl⟩

theorem recheck_keeps_iff_flaky :
    let days : DayTable := ⟨["Mo"], []⟩
    let disk : Flaky := ⟨some "[[\"soup\",null]]", [false, true, false]⟩
    let ops : List Operation := [.load, .execute "mo-u-t stew"]
    let s := ops.foldl (operate days) (Store.new (⟨disk, none⟩ : Tracked Flaky) ⟨[]⟩ 1)
    s.isLoaded = true ∧ s.disk.disk.entry = s.disk.last ∧
    s.grid = some ⟨[⟨.text "stew", .unset⟩]⟩ ∧ s.remembered = some "[[\"soup\",null]]" ∧
    s.reloadIfChanged.1 = false ∧
    s.reloadIfChanged.2 = { s with disk := s.reloadIfChanged.2.disk } := by
  intro days disk ops s
  have hloaded : s.isLoaded = true := by decide +kernel
  have hd : s.disk.disk.entry = s.disk.last := by decide +kernel
  have hgrid : s.grid = some ⟨[⟨.text "stew", .unset⟩]⟩ := by decide +kernel
  have hremembered : s.remembered = some "[[\"soup\",null]]" := by decide +kernel
  have hread : (Storage.get menuKey s.disk.disk).1.isOk = true ∧ s.remembered = s.disk.last := by
    decide +kernel
  obtain ⟨_, hkeeps, _⟩ := recheck_keeps_iff Flaky.truthful disk ⟨[]⟩ 1 days ops hloaded hd
  obtain ⟨hreloaded, hkept⟩ := hkeeps.mpr (Or.inl hread)
  exact ⟨hloaded, hd, hgrid, hremembered, hreloaded, hkept⟩

theorem recheck_empties_week :
    let disk : Flaky := ⟨some "[[\"soup\",null]]", [false, true, true]⟩
    let s := (new disk ⟨[]⟩ 1).load
    s.grid = some ⟨[⟨.text "soup", .unset⟩]⟩ ∧ s.disk.entry = s.remembered ∧
    s.reloadIfChanged.1 = true ∧ s.reloadIfChanged.2.grid = some (.empty 1) ∧
    s.reloadIfChanged.2.remembered = none := by
  decide +kernel

end Store
end WeekMenu

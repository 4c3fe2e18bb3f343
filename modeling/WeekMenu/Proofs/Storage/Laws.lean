import WeekMenu.Proofs.Storage.Folder

/-!
This module contains the laws of a storage for the entry of the menu: for one whose reads may fail,
for one whose reads and writes may fail, and for one in working order. The storages that keep them
follow.
-/

namespace WeekMenu
namespace Storage

variable {σ : Type} [Storage σ]

/--
A read that does not fail gives the entry: `Holds disk text` says that `text` is the entry on
`disk`. Nothing is said about writes, and which reads fail is open.
-/
structure Truthful (Holds : σ → Option String → Prop) : Prop where
  get_ok : ∀ {disk text found}, Holds disk text → (Storage.get menuKey disk).1 = .ok found →
    found = text

/--
The storage keeps the saved menu: `Holds disk text` says that `text` is its entry on `disk`. Any
read and any write may fail, and a read may also miss the entry, but a text that is read is the
entry. A write that fails either leaves the entry or replaces it all the same.
-/
structure Keeps (Holds : σ → Option String → Prop) : Prop where
  unique : ∀ {disk text text'}, Holds disk text → Holds disk text' → text = text'
  get : ∀ {disk text}, Holds disk text → Holds (Storage.get menuKey disk).2 text
  get_some : ∀ {disk text value}, Holds disk text →
    (Storage.get menuKey disk).1 = .ok (some value) → text = some value
  set_ok : ∀ {disk text value}, Holds disk text → (Storage.set menuKey value disk).1 = .ok () →
    Holds (Storage.set menuKey value disk).2 (some value)
  set_error : ∀ {disk text value e}, Holds disk text →
    (Storage.set menuKey value disk).1 = .error e →
    Holds (Storage.set menuKey value disk).2 text ∨
    Holds (Storage.set menuKey value disk).2 (some value)

structure Works (Holds : σ → Option String → Prop) : Prop extends Keeps Holds where
  get_works : ∀ {disk text}, Holds disk text → (Storage.get menuKey disk).1 = .ok text
  set_works : ∀ {disk text value}, Holds disk text → (Storage.set menuKey value disk).1 = .ok ()

theorem Keeps.toOption_get {Holds : σ → Option String → Prop} (h : Keeps Holds) {disk : σ}
    {text : Option String} (hd : Holds disk text) :
    (Storage.get menuKey disk).1.toOption.join = text ∨
    (Storage.get menuKey disk).1.toOption.join = none := by
  cases hr : (Storage.get menuKey disk).1 with
  | error e => exact Or.inr rfl
  | ok found =>
    cases found with
    | none => exact Or.inr rfl
    | some value => exact Or.inl (h.get_some hd hr).symm

theorem Works.holds_set {Holds : σ → Option String → Prop} (h : Works Holds) {disk : σ}
    {text : Option String} (hd : Holds disk text) (value : String) :
    Holds (Storage.set menuKey value disk).2 (some value) := by
  apply h.set_ok hd
  exact h.set_works hd

end Storage

namespace Memory

theorem works : Storage.Works fun (m : Memory) text => m.get? menuKey = text where
  unique h h' := h.symm.trans h'
  get h := h
  get_some h hr := by
    rw [← h]
    exact Except.ok.inj hr
  set_ok _ _ := get?_put_self _ _ _
  set_error _ hr := by cases hr
  get_works h := congrArg Except.ok h
  set_works _ := rfl

end Memory

namespace Folder

def Holds (f : Folder) (text : Option String) : Prop :=
  ∃ m, Mirrors f.root f.files m ∧ m.get? menuKey = text

variable {f : Folder} {text : Option String}

theorem isKey_menuKey : isKey menuKey = true := by
  decide +kernel

theorem Holds.get_eq (h : f.Holds text) : (Storage.get menuKey f).1 = .ok text := by
  obtain ⟨m, hmirrors, rfl⟩ := h
  exact hmirrors.read isKey_menuKey

theorem Holds.set (h : f.Holds text) (value : String) :
    (Storage.set menuKey value f).1 = .ok () ∧ (Storage.set menuKey value f).2.Holds (some value) ∨
    (Storage.set menuKey value f).1 ≠ .ok () ∧ (Storage.set menuKey value f).2.Holds text := by
  obtain ⟨m, hmirrors, hget⟩ := h
  rcases hmirrors.set menuKey value with ⟨_, hok, hset⟩ | ⟨hfail, hset⟩
  . exact Or.inl ⟨hok, m.put menuKey value, hset, m.get?_put_self menuKey value⟩
  . exact Or.inr ⟨hfail, m, hset, hget⟩

theorem truthful : Storage.Truthful Holds where
  get_ok h hr := Except.ok.inj (hr.symm.trans h.get_eq)

theorem keeps : Storage.Keeps Holds where
  unique h h' := Except.ok.inj (h.get_eq.symm.trans h'.get_eq)
  get h := h
  get_some h hr := (truthful.get_ok h hr).symm
  set_ok := by
    intro f text value h hr
    rcases h.set value with ⟨_, hset⟩ | ⟨hfail, _⟩
    . exact hset
    . exact absurd hr hfail
  set_error := by
    intro f text value e h hr
    rcases h.set value with ⟨hok, _⟩ | ⟨_, hset⟩
    . rw [hr] at hok
      cases hok
    . exact Or.inl hset

/--
The directory is there or can be created, and no other directory stands where the files of the menu
belong.
-/
def Ready (f : Folder) : Prop :=
  ∃ made place, f.files.createDirectories f.root = .ok made ∧ made.HasDirectory f.root place ∧
    made.node? (place ++ [menuKey ++ ".json.tmp"]) ≠ some .directory ∧
    made.node? (place ++ [menuKey ++ ".json"]) ≠ some .directory

theorem Ready.set (h : f.Ready) (value : String) :
    (Storage.set menuKey value f).1 = .ok () ∧ (Storage.set menuKey value f).2.Ready := by
  obtain ⟨made, place, hmade, hplace, htemporary, hfile⟩ := h
  have hname : FileName (menuKey ++ ".json") := fileName_of_isKey isKey_menuKey (by decide)
  have hname' : FileName (menuKey ++ ".json.tmp") := fileName_of_isKey isKey_menuKey (by decide)
  have hne : place ++ [menuKey ++ ".json"] ≠ place ++ [menuKey ++ ".json.tmp"] := by
    simp
  have hwrite := hplace.write_eq hname' (by decide) htemporary value
  have hwritten := hasDirectory_write hplace hwrite
  rw [← FileTree.node?_put_of_ne hne (.file value)] at hfile
  have hrename := hwritten.rename_eq hname' hname (by decide) (by decide) hfile
    (FileTree.read_of_write hwrite)
  have hset := write_of_operations isKey_menuKey hmade hwrite hrename
  have hthere := hasDirectory_rename hwritten hrename
  rw [set_eq, hset]
  refine ⟨rfl, _, place, hthere.createDirectories, hthere, ?_, ?_⟩
  . rw [FileTree.node?_put_of_ne hne.symm, FileTree.node?_erase (by simp)]
    nofun
  . rw [FileTree.node?_put (by simp)]
    nofun

theorem works : Storage.Works fun (f : Folder) text => f.Ready ∧ f.Holds text where
  unique h h' := keeps.unique h.2 h'.2
  get h := h
  get_some h hr := keeps.get_some h.2 hr
  set_ok h hr := ⟨(h.1.set _).2, keeps.set_ok h.2 hr⟩
  set_error h hr := by
    rw [(h.1.set _).1] at hr
    cases hr
  get_works h := h.2.get_eq
  set_works h := (h.1.set _).1

theorem start {name : String} (hname : FileName name) (hshort : name.utf8ByteSize ≤ 255) :
    (⟨name, .empty⟩ : Folder).Ready ∧ (⟨name, .empty⟩ : Folder).Holds none := by
  have hmade := FileTree.createDirectories_empty hname hshort
  have hplace := FileTree.hasDirectory_put_empty hname hshort
  have hnone (other : String) :
      (FileTree.empty.put [name] .directory).node? ([name] ++ [other]) = none := by
    rw [FileTree.node?_put_of_ne (by simp)]
    rfl
  constructor
  . refine ⟨_, _, hmade, hplace, ?_, ?_⟩
    . rw [hnone]
      nofun
    . rw [hnone]
      nofun
  . exact ⟨.empty, .of_fresh (fresh_of_hasDirectory hmade hplace hnone), rfl⟩

end Folder

/--
A storage of one entry whose operations fail by a plan: the next one if the plan starts with `true`,
and none once the plan has come to its end.
-/
structure Flaky where
  entry : Option String
  plan : List Bool
  deriving DecidableEq, Repr

namespace Flaky

def fails (f : Flaky) : Bool :=
  f.plan.headD false

instance : Storage Flaky where
  get _ f := (if f.fails then .error .unavailable else .ok f.entry, { f with plan := f.plan.tail })
  set _ value f :=
    if f.fails then (.error .unavailable, { f with plan := f.plan.tail })
    else (.ok (), { entry := some value, plan := f.plan.tail })
  location _ _ := none

theorem keeps : Storage.Keeps fun (f : Flaky) text => f.entry = text where
  unique h h' := h.symm.trans h'
  get h := h
  get_some := by
    intro f text value h hr
    simp only [Storage.get] at hr
    split at hr
    . cases hr
    . rw [← h]
      exact Except.ok.inj hr
  set_ok := by
    intro f text value h hr
    simp only [Storage.set] at hr ⊢
    split at hr
    . cases hr
    . next hfail =>
      rw [if_neg hfail]
  set_error := by
    intro f text value e h hr
    simp only [Storage.set] at hr ⊢
    split at hr
    . next hfail =>
      rw [if_pos hfail]
      exact Or.inl h
    . cases hr

theorem truthful : Storage.Truthful fun (f : Flaky) text => f.entry = text where
  get_ok := by
    intro f text found h hr
    simp only [Storage.get] at hr
    split at hr
    . cases hr
    . rw [← h]
      exact (Except.ok.inj hr).symm

end Flaky
end WeekMenu

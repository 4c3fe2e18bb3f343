import WeekMenu.Proofs.Storage.Stop
import WeekMenu.Storage.Memory

/-!
This module contains the proof that a folder keeps texts under keys as the memory does, and that no
reader sees a `set` that is not complete: one that fails or is stopped leaves every key as it was.
-/

namespace WeekMenu

theorem Memory.get?_put (m : Memory) (key value other : String) :
    (m.put key value).get? other = if other = key then some value else m.get? other := by
  split
  . next heq =>
    rw [heq]
    exact get?_put_self m key value
  . next hne =>
    unfold put get?
    dsimp only
    rw [List.lookup_cons, beq_eq_false_iff_ne.mpr hne, lookup_filter_ne hne]

namespace Storage

inductive Query where
  | get (key : String)
  | set (key value : String)
  deriving DecidableEq, Repr

def Query.key : Query → String
  | .get key => key
  | .set key _ => key

variable {σ : Type} [Storage σ]

def ask : Query → σ → Except StorageError (Option String) × σ
  | .get key, s => Storage.get key s
  | .set key value, s =>
    let (result, s) := Storage.set key value s
    (result.map fun _ => none, s)

def answers : List Query → σ → List (Except StorageError (Option String))
  | [], _ => []
  | query :: queries, s => (ask query s).1 :: answers queries (ask query s).2

end Storage

namespace Folder

inductive Event where
  | query (query : Storage.Query)
  | stop (key value : String) (stop : Stop)
  deriving DecidableEq, Repr

def befall (f : Folder) : Event → Folder
  | .query query => (Storage.ask query f).2
  | .stop key value stop => { f with files := stopped f.root key value stop f.files }

def after (f : Folder) (events : List Event) : Folder :=
  events.foldl befall f

/--
The folder has no entry yet: once its directory is there, nothing is found under any key.
-/
def Fresh (f : Folder) : Prop :=
  ∀ made, f.files.createDirectories f.root = .ok made →
    ∀ key, isKey key = true → read f.root key made = .ok none

open FileTree (KeptBut)

theorem fresh_of_hasDirectory {f : Folder} {made : FileTree} {place : List String}
    (hmade : f.files.createDirectories f.root = .ok made) (hplace : made.HasDirectory f.root place)
    (h : ∀ name, made.node? (place ++ [name]) = none) : f.Fresh := by
  intro u hu key hkey
  obtain rfl := Except.ok.inj (hmade.symm.trans hu)
  exact read_of_node?_none hkey hplace (h _)

variable {root key : String} {t u : FileTree} {m : Memory}

structure Mirrors (root : String) (t : FileTree) (m : Memory) : Prop where
  read : ∀ {key}, isKey key = true → read root key t = .ok (m.get? key)
  created : ∀ {u}, t.createDirectories root = .ok u →
    ∀ {key}, isKey key = true → Folder.read root key u = .ok (m.get? key)

theorem read_eq_none_or_created (hkey : isKey key = true) (root : String) (t : FileTree) :
    read root key t = .ok none ∨ t.createDirectories root = .ok t := by
  cases hcontains : t.contains (joinPath root (key ++ ".json")) with
  | false =>
    left
    rw [read_of_isKey hkey, hcontains]
    rfl
  | true =>
    right
    have hname : FileName (key ++ ".json") := fileName_of_isKey hkey (by decide)
    obtain ⟨place, hplace⟩ := FileTree.exists_hasDirectory hname hcontains
    exact hplace.createDirectories

theorem read_kept (hkept : KeptBut [] t u) {text : String}
    (h : read root key t = .ok (some text)) : read root key u = .ok (some text) := by
  obtain ⟨path, hpath, hread⟩ := read_eq_some_iff.mp h
  rcases hkept.read hread with hu | ⟨_, hmem, _⟩
  . exact read_eq_some_iff.mpr ⟨path, hpath, hu⟩
  . cases hmem

theorem set_eq (f : Folder) (key value : String) :
    Storage.set key value f =
      ((write f.root key value f.files).1,
        { f with files := (write f.root key value f.files).2 }) := by
  rfl

theorem ask_get (f : Folder) (key : String) :
    Storage.ask (.get key) f = (read f.root key f.files, f) := by
  rfl

theorem ask_set (f : Folder) (key value : String) :
    Storage.ask (.set key value) f =
      ((write f.root key value f.files).1.map fun _ => none,
        { f with files := (write f.root key value f.files).2 }) := by
  rfl

theorem ask_of_not_isKey (f : Folder) {query : Storage.Query} (h : isKey query.key = false) :
    Storage.ask query f = (.error (.invalidKey query.key), f) := by
  cases query with
  | get key =>
    change isKey key = false at h
    rw [ask_get, read_of_not_isKey h]
    rfl
  | set key value =>
    change isKey key = false at h
    rw [ask_set, write_of_not_isKey h]
    rfl

namespace Mirrors

theorem of_fresh {f : Folder} (h : f.Fresh) : Mirrors f.root f.files .empty where
  read := by
    intro key hkey
    rcases read_eq_none_or_created hkey f.root f.files with hnone | hcreated
    . exact hnone
    . exact h f.files hcreated key hkey
  created := by
    intro made hmade key hkey
    exact h made hmade key hkey

theorem of_hasDirectory {place : List String} (hplace : t.HasDirectory root place)
    (h : ∀ {key}, isKey key = true → Folder.read root key t = .ok (m.get? key)) :
    Mirrors root t m where
  read := h
  created := by
    intro u hu
    obtain rfl := Except.ok.inj (hplace.createDirectories.symm.trans hu)
    exact h

theorem createBelow (h : Mirrors root t m) {n : Nat}
    (hu : t.createBelow [] ((FileTree.steps root).take n) = .ok u) : Mirrors root u m where
  read := by
    intro key hkey
    rcases read_eq_none_or_created hkey root u with hnone | hcreated
    . -- What can be read before can be read after.
      cases hentry : m.get? key with
      | none => exact hnone
      | some text =>
        have hread := h.read hkey
        rw [hentry] at hread
        exact read_kept (.createBelow hu []) hread
    . exact h.created (FileTree.createDirectories_again hu hcreated) hkey
  created := by
    intro made hmade key hkey
    exact h.created (FileTree.createDirectories_again hu hmade) hkey

theorem underway (h : Mirrors root t m) (hkey : isKey key = true) (hu : Underway root key t u) :
    Mirrors root u m := by
  cases hu with
  | creating hu => exact h.createBelow hu
  | writing hmade hwrite =>
    obtain ⟨place, hplace⟩ := FileTree.exists_hasDirectory_of_createDirectories hmade
    apply of_hasDirectory (hasDirectory_write hplace hwrite)
    intro other hother
    rw [read_write_temporary hkey hplace hwrite]
    exact h.created hmade hother

theorem stopped (h : Mirrors root t m) (key value : String) (stop : Stop) :
    Mirrors root (Folder.stopped root key value stop t) m := by
  cases hkey : isKey key with
  | false =>
    unfold Folder.stopped
    rw [writeOperations_of_not_isKey hkey]
    exact h
  | true => exact h.underway hkey (underway_stopped hkey value stop)

theorem write (h : Mirrors root t m) (hkey : isKey key = true) (value : String) :
    (Folder.write root key value t).1 = .ok () ∧
      Mirrors root (Folder.write root key value t).2 (m.put key value) ∨
    ∃ e, (Folder.write root key value t).1 = .error (.file e) ∧
      Mirrors root (Folder.write root key value t).2 m := by
  rcases write_cases hkey root value t with
    ⟨made, written, u, hmade, hwrite, hrename, heq⟩ | ⟨e, u, hu, heq⟩
  . left
    rw [heq]
    refine ⟨rfl, ?_⟩
    obtain ⟨place, hplace⟩ := FileTree.exists_hasDirectory_of_createDirectories hmade
    have hwritten := hasDirectory_write hplace hwrite
    have hmirrors := h.underway hkey (.writing hmade hwrite)
    apply of_hasDirectory (hasDirectory_rename hwritten hrename)
    intro other hother
    rw [read_rename hkey hwritten (FileTree.read_of_write hwrite) hrename, Memory.get?_put]
    split
    . rfl
    . exact hmirrors.read hother
  . right
    rw [heq]
    exact ⟨e, rfl, h.underway hkey hu⟩

theorem put_of_not_isKey (h : Mirrors root t m) (hkey : isKey key = false) (value : String) :
    Mirrors root t (m.put key value) := by
  have hget {other : String} (hother : isKey other = true) :
      (m.put key value).get? other = m.get? other := by
    rw [Memory.get?_put, if_neg]
    rintro rfl
    rw [hother] at hkey
    cases hkey
  constructor
  . intro other hother
    rw [hget hother]
    exact h.read hother
  . intro u hu other hother
    rw [hget hother]
    exact h.created hu hother

theorem ask {f : Folder} (h : Mirrors f.root f.files m) (query : Storage.Query)
    (hfile : ∀ e, (Storage.ask query f).1 ≠ .error (.file e)) :
    (isKey query.key = true → (Storage.ask query f).1 = (Storage.ask query m).1) ∧
      Mirrors (Storage.ask query f).2.root (Storage.ask query f).2.files
        (Storage.ask query m).2 := by
  cases query with
  | get key => exact ⟨fun hkey => h.read hkey, h⟩
  | set key value =>
    cases hkey : isKey key with
    | false =>
      rw [ask_set, write_of_not_isKey hkey]
      refine ⟨fun hvalid => ?_, h.put_of_not_isKey hkey value⟩
      rw [Storage.Query.key, hkey] at hvalid
      cases hvalid
    | true =>
      rcases h.write hkey value with ⟨hok, hmirrors⟩ | ⟨e, herror, _⟩
      . exact ⟨fun _ => congrArg (Except.map fun _ => none) hok, hmirrors⟩
      . exact absurd (congrArg (Except.map fun _ => none) herror) (hfile e)

theorem set {f : Folder} (h : Mirrors f.root f.files m) (key value : String) :
    isKey key = true ∧ (Storage.set key value f).1 = .ok () ∧
      Mirrors f.root (Storage.set key value f).2.files (m.put key value) ∨
    (Storage.set key value f).1 ≠ .ok () ∧ Mirrors f.root (Storage.set key value f).2.files m := by
  rw [set_eq]
  cases hkey : isKey key with
  | false =>
    right
    rw [write_of_not_isKey hkey]
    exact ⟨nofun, h⟩
  | true =>
    rcases h.write hkey value with hok | ⟨e, herror, hmirrors⟩
    . exact Or.inl ⟨rfl, hok⟩
    . right
      rw [herror]
      exact ⟨nofun, hmirrors⟩

theorem befall {f : Folder} (h : Mirrors f.root f.files m) (event : Event) :
    ∃ m', Mirrors (f.befall event).root (f.befall event).files m' ∧
      ∀ key, (∀ text, event ≠ .query (.set key text)) → m'.get? key = m.get? key := by
  cases event with
  | stop key value stop => exact ⟨m, h.stopped key value stop, fun _ _ => rfl⟩
  | query query =>
    cases query with
    | get key => exact ⟨m, h, fun _ _ => rfl⟩
    | set key value =>
      rcases h.set key value with ⟨_, _, hmirrors⟩ | ⟨_, hmirrors⟩
      . refine ⟨m.put key value, hmirrors, fun other hother => ?_⟩
        rw [Memory.get?_put, if_neg]
        rintro rfl
        exact hother value rfl
      . exact ⟨m, hmirrors, fun _ _ => rfl⟩

theorem after {f : Folder} (h : Mirrors f.root f.files m) (events : List Event) :
    ∃ m', Mirrors (f.after events).root (f.after events).files m' ∧
      ∀ key, (∀ text, .query (.set key text) ∉ events) → m'.get? key = m.get? key := by
  induction events generalizing f m with
  | nil => exact ⟨m, h, fun _ _ => rfl⟩
  | cons event events ih =>
    obtain ⟨m', hmirrors, hget⟩ := h.befall event
    obtain ⟨m'', hmirrors', hget'⟩ := ih hmirrors
    refine ⟨m'', hmirrors', fun key hkey => ?_⟩
    rw [hget' key fun text htext => hkey text (List.mem_cons_of_mem _ htext)]
    exact hget key fun text htext => hkey text (List.mem_cons.mpr (Or.inl htext.symm))

end Mirrors

theorem answers_eq {f : Folder} (h : Mirrors f.root f.files m) {queries : List Storage.Query}
    (hfile : ∀ e, .error (.file e) ∉ Storage.answers queries f) {i : Nat} {query : Storage.Query}
    (hi : queries[i]? = some query) (hkey : isKey query.key = true) :
    (Storage.answers queries f)[i]? = (Storage.answers queries m)[i]? := by
  induction queries generalizing f m i with
  | nil => cases hi
  | cons first queries ih =>
    have hfirst : ∀ e, (Storage.ask first f).1 ≠ .error (.file e) := by
      intro e he
      exact hfile e (List.mem_cons.mpr (Or.inl he.symm))
    obtain ⟨hanswer, hmirrors⟩ := h.ask first hfirst
    cases i with
    | zero =>
      cases hi
      exact congrArg some (hanswer hkey)
    | succ i =>
      apply ih hmirrors _ hi
      intro e he
      exact hfile e (List.mem_cons_of_mem _ he)

theorem get_eq {f : Folder} (h : Mirrors f.root f.files m) (key : String) :
    (Storage.get key f).1 = if isKey key then .ok (m.get? key) else .error (.invalidKey key) := by
  change read f.root key f.files = _
  split
  . next hkey => exact h.read hkey
  . next hkey => exact read_of_not_isKey (Bool.eq_false_iff.mpr hkey) _ _

theorem get_after {f : Folder} (h : Mirrors f.root f.files m) {key : String} {events : List Event}
    (hkey : ∀ text, .query (.set key text) ∉ events) :
    (Storage.get key (f.after events)).1 = (Storage.get key f).1 := by
  obtain ⟨m', hmirrors, hget⟩ := h.after events
  rw [get_eq hmirrors, get_eq h, hget key hkey]

theorem get_set {f : Folder} (h : Mirrors f.root f.files m) (key value other : String) :
    (Storage.get other (Storage.set key value f).2).1 =
      if other = key ∧ (Storage.set key value f).1 = .ok () then .ok (some value)
      else (Storage.get other f).1 := by
  rcases h.set key value with ⟨hkey, hok, hset⟩ | ⟨hfail, hset⟩
  . rw [get_eq hset, Memory.get?_put, get_eq h]
    by_cases hother : other = key
    . simp [hother, hkey, hok]
    . simp [hother]
  . rw [get_eq hset, get_eq h]
    simp [hfail]

/--
A folder without entries answers every sequence of calls under valid keys as an empty memory does if
no file operation fails, and refuses every other key without touching a file. Whatever has befallen
it, a `set` that fails or is stopped at any of its operations changes nothing that is read later,
and one that succeeds changes what is read under its key to its whole text.
-/
theorem like_memory {f : Folder} (h : f.Fresh) :
    (∀ queries, (∀ e, .error (.file e) ∉ Storage.answers queries f) →
      ∀ (i : Nat) query, queries[i]? = some query → isKey query.key = true →
        (Storage.answers queries f)[i]? = (Storage.answers queries Memory.empty)[i]?) ∧
    (∀ (g : Folder) query, isKey query.key = false →
      Storage.ask query g = (.error (.invalidKey query.key), g)) ∧
    ∀ earlier later key value other, (∀ text, .query (.set other text) ∉ later) →
      (∀ stop, (Storage.get other
          (((f.after earlier).befall (.stop key value stop)).after later)).1 =
        (Storage.get other (f.after earlier)).1) ∧
      (Storage.get other
          (((f.after earlier).befall (.query (.set key value))).after later)).1 =
        if other = key ∧ (Storage.set key value (f.after earlier)).1 = .ok () then
          .ok (some value)
        else
          (Storage.get other (f.after earlier)).1 := by
  have hmirrors := Mirrors.of_fresh h
  refine ⟨fun queries hfile i query hi hkey => answers_eq hmirrors hfile hi hkey,
    fun g query hkey => ask_of_not_isKey g hkey, ?_⟩
  intro earlier later key value other hother
  obtain ⟨m, hm, _⟩ := hmirrors.after earlier
  constructor
  . intro stop
    have hstopped := hm.stopped key value stop
    rw [get_after hstopped hother, get_eq hstopped, get_eq hm]
  . obtain ⟨m', hset, _⟩ := hm.befall (.query (.set key value))
    rw [get_after hset hother]
    exact get_set hm key value other

theorem like_memory_deep :
    let f : Folder := ⟨"store/deep", .empty⟩
    f.Fresh ∧
    (Storage.answers [.set "weeklyMenu" "[]", .set "../x" "y", .get "weeklyMenu"] f)[2]? =
      some (.ok (some "[]")) ∧
    Storage.ask (.set "../x" "y") f = (.error (.invalidKey "../x"), f) ∧
    (Storage.get "weeklyMenu"
      (((f.after [.query (.set "weeklyMenu" "[]")]).befall
        (.stop "weeklyMenu" "[[]]" ⟨1, 0, some "[["⟩)).after [.query (.set "other" "x")])).1 =
      .ok (some "[]") := by
  intro f
  have hfresh : f.Fresh := by
    let made : FileTree := ⟨[(["store", "deep"], .directory), (["store"], .directory)]⟩
    have hmade : f.files.createDirectories f.root = .ok made := by decide +kernel
    have hplace : made.HasDirectory f.root ["store", "deep"] := ⟨by decide +kernel, rfl⟩
    refine fresh_of_hasDirectory hmade hplace fun name => ?_
    simp [made, FileTree.node?, List.lookup_cons]
  obtain ⟨hanswers, hrefuses, hstopped⟩ := like_memory hfresh
  have hall : Storage.answers [.set "weeklyMenu" "[]", .set "../x" "y", .get "weeklyMenu"] f =
      [.ok none, .error (.invalidKey "../x"), .ok (some "[]")] := by
    decide +kernel
  refine ⟨hfresh, ?_, hrefuses f (.set "../x" "y") (by decide +kernel), ?_⟩
  . rw [hanswers _ (by simp [hall]) 2 (.get "weeklyMenu") rfl (by decide +kernel)]
    decide +kernel
  . rw [(hstopped [.query (.set "weeklyMenu" "[]")] [.query (.set "other" "x")] "weeklyMenu" "[[]]"
      "weeklyMenu" (by simp)).1]
    decide +kernel

end Folder
end WeekMenu

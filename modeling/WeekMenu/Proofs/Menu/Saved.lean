import WeekMenu.Menu.Saved
import WeekMenu.Proofs.Catalog
import WeekMenu.Proofs.Command
import WeekMenu.Proofs.Json.RoundTrip
import WeekMenu.Proofs.Menu.Edit

/-!
This module contains the relation between a grid and the grid that comes back from its saved text.
Only the names are saved, so free text can come back as a meal of the catalog, but commands do not
tell such grids apart.
-/

namespace WeekMenu

namespace Entry

/--
An entry without a name is an unset one. It fails of a meal without a name.
-/
def Named (e : Entry) : Prop :=
  e.name = "" → e = unset

theorem named_of_name_ne {e : Entry} (h : e.name ≠ "") : e.Named := by
  intro hname
  contradiction

theorem named_unset : unset.Named := by
  intro _
  rfl

theorem Named.isUnset_iff {e : Entry} (h : e.Named) : e.isUnset = true ↔ e.name = "" := by
  constructor
  . intro hu
    rw [Entry.isUnset_iff] at hu
    simp [hu]
  . intro hname
    simp [h hname]

theorem Named.isUnset_eq {e e' : Entry} (h : e.Named) (h' : e'.Named) (hname : e.name = e'.name) :
    e.isUnset = e'.isUnset := by
  rw [Bool.eq_iff_iff, h.isUnset_iff, h'.isUnset_iff, hname]

@[simp]
theorem name_ofName (catalog : Catalog) (name : String) : (ofName catalog name).name = name := by
  unfold ofName
  split
  . next hname => simp_all
  . split
    . next m hm => simpa [Entry.name] using List.find?_some hm
    . rfl

theorem named_ofName (catalog : Catalog) (name : String) : (ofName catalog name).Named := by
  intro hname
  rw [name_ofName] at hname
  simp [ofName, hname]

theorem name_ne_of_entryFor {catalog : Catalog} {token label value message : String} {zone : Zone}
    {kind : SlotKind} {e : Entry} (hv : (Command.set token zone kind value).value? ≠ some "")
    (h : Grid.entryFor catalog label zone kind value = .ok (e, message)) : e.name ≠ "" := by
  have hvalue : value ≠ "" := by
    simpa [Command.value?] using hv
  cases kind with
  | text =>
    cases h
    exact hvalue
  | sandwich =>
    simp only [Grid.entryFor] at h
    split at h
    . next m hm =>
      cases h
      exact Catalog.name_ne_empty_of_lookup hvalue hm
    . cases h
    . cases h

end Entry

namespace DayMenu

def names (d : DayMenu) : List String :=
  [d.upper.name, d.lower.name]

def Named (d : DayMenu) : Prop :=
  d.upper.Named ∧ d.lower.Named

theorem named_empty : empty.Named :=
  ⟨Entry.named_unset, Entry.named_unset⟩

theorem named_iff_forall_slot {d : DayMenu} : d.Named ↔ ∀ zone, (d.slot zone).Named := by
  constructor
  . rintro ⟨hupper, hlower⟩ zone
    cases zone with
    | upper => exact hupper
    | lower => exact hlower
  . intro h
    exact ⟨h .upper, h .lower⟩

theorem Named.put {d : DayMenu} {e : Entry} (h : d.Named) (he : e.Named) (zone : Zone) :
    (d.put zone e).Named := by
  rw [named_iff_forall_slot] at *
  exact forall_slot_put h he zone

theorem named_ofNames (catalog : Catalog) (row : List (Option String)) :
    (ofNames catalog row).Named :=
  ⟨Entry.named_ofName _ _, Entry.named_ofName _ _⟩

@[simp]
theorem names_ofNames_names (catalog : Catalog) (d : DayMenu) :
    (ofNames catalog (d.names.map some)).names = d.names := by
  simp [ofNames, names]

theorem Named.edit {d d' : DayMenu} {catalog : Catalog} {label message : String} {cmd : Command}
    (h : d.Named) (hv : cmd.value? ≠ some "") (he : d.edit catalog label cmd = .ok (d', message)) :
    d'.Named := by
  rw [named_iff_forall_slot] at *
  apply forall_slot_edit h Entry.named_unset _ he
  rintro token zone kind value e m rfl hentry
  exact Entry.named_of_name_ne (Entry.name_ne_of_entryFor hv hentry)

/--
Two days with the same names whose set slots all have one: the same day but for what its names are
bound to.
-/
structure Alike (d k : DayMenu) : Prop where
  names : d.names = k.names
  left : d.Named
  right : k.Named

namespace Alike

theorem symm {d k : DayMenu} (h : Alike d k) : Alike k d :=
  ⟨h.names.symm, h.right, h.left⟩

theorem upper {d k : DayMenu} (h : Alike d k) : d.upper.name = k.upper.name := by
  simpa [DayMenu.names] using congrArg List.head? h.names

theorem lower {d k : DayMenu} (h : Alike d k) : d.lower.name = k.lower.name := by
  simpa [DayMenu.names] using congrArg List.getLast? h.names

theorem accepts {d k : DayMenu} (h : Alike d k) (zone : Zone) :
    d.accepts zone = k.accepts zone := by
  cases zone with
  | upper => rfl
  | lower =>
    simp only [DayMenu.accepts, acceptsLower]
    rw [h.left.1.isUnset_eq h.right.1 h.upper]

theorem put {d k : DayMenu} {e : Entry} (h : Alike d k) (he : e.Named) (zone : Zone) :
    Alike (d.put zone e) (k.put zone e) where
  names := by
    cases zone with
    | upper => simp [DayMenu.names, DayMenu.put, h.lower]
    | lower => simp [DayMenu.names, DayMenu.put, h.upper]
  left := h.left.put he zone
  right := h.right.put he zone

theorem clear {d k : DayMenu} (h : Alike d k) (zone : Zone) :
    Alike (d.clear zone) (k.clear zone) := by
  cases zone with
  | upper => exact ⟨rfl, named_empty, named_empty⟩
  | lower => exact h.put Entry.named_unset .lower

theorem edit {d k : DayMenu} (h : Alike d k) (catalog : Catalog) (label : String) {cmd : Command}
    (hv : cmd.value? ≠ some "") :
    (∃ r, d.edit catalog label cmd = .error r ∧ k.edit catalog label cmd = .error r) ∨
    (∃ d' k' message, d.edit catalog label cmd = .ok (d', message) ∧
      k.edit catalog label cmd = .ok (k', message) ∧ Alike d' k') := by
  cases cmd with
  | generate => exact Or.inl ⟨_, rfl, rfl⟩
  | clear token zone => exact Or.inr ⟨_, _, _, rfl, rfl, h.clear zone⟩
  | set token zone kind value =>
    simp only [DayMenu.edit, h.accepts zone]
    split
    . cases he : Grid.entryFor catalog label zone kind value with
      | error r => exact Or.inl ⟨r, rfl, rfl⟩
      | ok result =>
        have hname := Entry.name_ne_of_entryFor hv he
        exact Or.inr ⟨_, _, _, rfl, rfl, h.put (Entry.named_of_name_ne hname) zone⟩
    . exact Or.inl ⟨_, rfl, rfl⟩

end Alike
end DayMenu

namespace Grid

def Named (g : Grid) : Prop :=
  ∀ d ∈ g.days, d.Named

theorem named_empty (n : Nat) : (empty n).Named := by
  intro d hd
  rw [List.eq_of_mem_replicate hd]
  exact DayMenu.named_empty

theorem Named.day? {g : Grid} {day : Nat} {d : DayMenu} (h : g.Named) (hd : g.day? day = some d) :
    d.Named := by
  apply h
  exact List.mem_of_getElem? hd

theorem Named.setDay {g : Grid} {d : DayMenu} (h : g.Named) (hd : d.Named) (day : Nat) :
    (g.setDay day d).Named := by
  apply forall_days_setDay h hd

@[simp]
theorem dayCount_ofNames (catalog : Catalog) (n : Nat) (rows : List (List (Option String))) :
    (ofNames catalog n rows).dayCount = n := by
  simp only [ofNames, dayCount, List.length_append, List.length_map, List.length_take,
    List.length_replicate]
  omega

@[simp]
theorem dayCount_ofSaved (catalog : Catalog) (n : Nat) (text : Option String) :
    (ofSaved catalog n text).dayCount = n := by
  unfold ofSaved
  split <;> simp

theorem named_ofSaved (catalog : Catalog) (n : Nat) (text : Option String) :
    (ofSaved catalog n text).Named := by
  unfold ofSaved
  split
  . intro d hd
    cases List.mem_append.mp hd with
    | inl hmem =>
      obtain ⟨row, _, rfl⟩ := List.mem_map.mp hmem
      exact DayMenu.named_ofNames catalog row
    | inr hmem =>
      rw [List.eq_of_mem_replicate hmem]
      exact DayMenu.named_empty
  . exact named_empty n

theorem names_eq_map (g : Grid) : g.names = g.days.map DayMenu.names := by
  rfl

theorem readNames?_toSaved (g : Grid) :
    readNames? g.toSaved = some (g.names.map (·.map some)) := by
  apply Json.read_ofRows

def rebind (catalog : Catalog) (g : Grid) : Grid :=
  ⟨g.days.map fun d => DayMenu.ofNames catalog (d.names.map some)⟩

@[simp]
theorem dayCount_rebind (catalog : Catalog) (g : Grid) :
    (g.rebind catalog).dayCount = g.dayCount := by
  simp [rebind, dayCount]

@[simp]
theorem names_rebind (catalog : Catalog) (g : Grid) : (g.rebind catalog).names = g.names := by
  simp [rebind, names_eq_map]

theorem ofSaved_toSaved (catalog : Catalog) {g : Grid} {n : Nat} (h : g.dayCount = n) :
    ofSaved catalog n (some g.toSaved) = g.rebind catalog := by
  have hlen : g.days.length = n := h
  -- There are as many rows as days, so none is dropped and no empty day comes after them.
  have hrows : (g.names.map (·.map some)).take n = g.names.map (·.map some) := by
    rw [List.take_of_length_le]
    simp [names_eq_map, hlen]
  unfold ofSaved ofNames rebind
  rw [Option.bind_some, readNames?_toSaved]
  dsimp only
  rw [hrows]
  simp [names_eq_map, hlen]

theorem names_ofSaved_toSaved (catalog : Catalog) {g : Grid} {n : Nat} (h : g.dayCount = n) :
    (ofSaved catalog n (some g.toSaved)).names = g.names := by
  rw [ofSaved_toSaved catalog h, names_rebind]

structure Alike (g k : Grid) : Prop where
  names : g.names = k.names
  left : g.Named
  right : k.Named

theorem alike_ofSaved_toSaved (catalog : Catalog) {g : Grid} {n : Nat} (hg : g.Named)
    (h : g.dayCount = n) : Alike g (ofSaved catalog n (some g.toSaved)) where
  names := (names_ofSaved_toSaved catalog h).symm
  left := hg
  right := named_ofSaved catalog n _

namespace Alike

theorem refl {g : Grid} (h : g.Named) : Alike g g :=
  ⟨rfl, h, h⟩

theorem symm {g k : Grid} (h : Alike g k) : Alike k g :=
  ⟨h.names.symm, h.right, h.left⟩

theorem trans {g k l : Grid} (h : Alike g k) (h' : Alike k l) : Alike g l :=
  ⟨h.names.trans h'.names, h.left, h'.right⟩

theorem toSaved {g k : Grid} (h : Alike g k) : g.toSaved = k.toSaved := by
  unfold Grid.toSaved
  rw [h.names]

theorem dayCount {g k : Grid} (h : Alike g k) : g.dayCount = k.dayCount := by
  simpa [names_eq_map, Grid.dayCount] using congrArg List.length h.names

theorem day? {g k : Grid} {day : Nat} {d : DayMenu} (h : Alike g k) (hd : g.day? day = some d) :
    ∃ d', k.day? day = some d' ∧ DayMenu.Alike d d' := by
  have hnames : (k.day? day).map DayMenu.names = some d.names := by
    have := congrArg (·[day]?) h.names
    simp only [names_eq_map, List.getElem?_map] at this
    unfold Grid.day? at *
    rw [← this, hd]
    rfl
  obtain ⟨d', hd', hname⟩ := Option.map_eq_some_iff.mp hnames
  exact ⟨d', hd', hname.symm, h.left.day? hd, h.right.day? hd'⟩

theorem setDay {g k : Grid} {d d' : DayMenu} (h : Alike g k) (hd : DayMenu.Alike d d') (day : Nat) :
    Alike (g.setDay day d) (k.setDay day d') where
  names := by
    have hdays : g.days.map DayMenu.names = k.days.map DayMenu.names := h.names
    simp [names_eq_map, Grid.setDay, List.map_set, hdays, hd.names]
  left := h.left.setDay hd.left day
  right := h.right.setDay hd.right day

theorem edit {g k : Grid} {t : DayTable} (h : Alike g k) (hg : g.dayCount = t.dayCount)
    (catalog : Catalog) (text : String) :
    (∃ r, g.edit catalog t (Command.parse? text) = .error r ∧
      k.edit catalog t (Command.parse? text) = .error r) ∨
    (∃ g' k' message, g.edit catalog t (Command.parse? text) = .ok (g', message) ∧
      k.edit catalog t (Command.parse? text) = .ok (k', message) ∧ Alike g' k') := by
  rcases edit_cases t catalog (Command.parse? text) with
    ⟨r, hfail⟩ | ⟨cmd, token, day, label, hcmd, _, hr, _, hedit⟩
  . exact Or.inl ⟨r, hfail g, hfail k⟩
  . have hv := Command.value?_ne_of_parse? hcmd
    have hlt : day < g.dayCount := hg ▸ DayTable.resolve_lt hr
    obtain ⟨d, hd⟩ := day?_of_lt hlt
    obtain ⟨d', hd', halike⟩ := h.day? hd
    rw [hedit g d hd, hedit k d' hd']
    rcases halike.edit catalog label hv with ⟨r, he, he'⟩ | ⟨e, e', message, he, he', hee⟩
    . rw [he, he']
      exact Or.inl ⟨r, rfl, rfl⟩
    . rw [he, he']
      exact Or.inr ⟨_, _, message, rfl, rfl, h.setDay hee day⟩

end Alike
end Grid
end WeekMenu

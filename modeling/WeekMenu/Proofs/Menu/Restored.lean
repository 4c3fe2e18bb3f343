import WeekMenu.Proofs.Menu.Saved

/-!
This module contains what becomes of the entries of a grid when it is saved and loaded: every name
is bound to the catalog anew. The meals that commands put into a grid come back as they were.
-/

namespace WeekMenu

namespace Entry

inductive Restores (catalog : Catalog) : String → Entry → Prop where
  | unset : Restores catalog "" .unset
  | meal {first m rest} : m.name ≠ "" → catalog.meals = first ++ m :: rest →
    (∀ k ∈ first, k.name ≠ m.name) → Restores catalog m.name (.meal m)
  | text {name} : name ≠ "" → (∀ m ∈ catalog.meals, m.name ≠ name) →
    Restores catalog name (.text name)

variable {catalog : Catalog}

theorem ofName_of_named? {name : String} {m : Meal} (hname : name ≠ "")
    (h : catalog.named? name = some m) : ofName catalog name = .meal m := by
  unfold ofName
  rw [if_neg (by simpa using hname), h]

theorem ofName_of_named?_none {name : String} (h : catalog.named? name = none) :
    ofName catalog name = .text name := by
  unfold ofName
  rw [h]
  split
  . next hname =>
    rw [String.isEmpty_iff] at hname
    rw [hname]
    rfl
  . rfl

theorem restores_iff {name : String} {e : Entry} :
    Restores catalog name e ↔ e = ofName catalog name := by
  constructor
  . intro h
    cases h with
    | unset => rfl
    | meal hname hmeals hfirst =>
      rw [ofName_of_named? hname]
      rw [Catalog.named?_eq_some_iff]
      exact ⟨rfl, _, _, hmeals, hfirst⟩
    | text _ hnone =>
      rw [ofName_of_named?_none]
      unfold Catalog.named?
      simpa using hnone
  . rintro rfl
    by_cases hname : name = ""
    . subst hname
      exact .unset
    . cases hm : catalog.named? name with
      | some m =>
        rw [ofName_of_named? hname hm]
        rw [Catalog.named?_eq_some_iff] at hm
        obtain ⟨rfl, first, rest, hmeals, hfirst⟩ := hm
        exact .meal hname hmeals hfirst
      | none =>
        rw [ofName_of_named?_none hm]
        apply Restores.text hname
        unfold Catalog.named? at hm
        simpa using hm

def Bound (catalog : Catalog) (e : Entry) : Prop :=
  ∀ m, e = .meal m → ofName catalog m.name = .meal m

theorem bound_text (catalog : Catalog) (label : String) : (text label).Bound catalog := by
  intro m hm
  cases hm

theorem bound_of_entryFor {token label value message : String} {zone : Zone} {kind : SlotKind}
    {e : Entry} (hv : (Command.set token zone kind value).value? ≠ some "")
    (h : Grid.entryFor catalog label zone kind value = .ok (e, message)) : e.Bound catalog := by
  have hname := name_ne_of_entryFor hv h
  cases kind with
  | text =>
    cases h
    apply bound_text
  | sandwich =>
    simp only [Grid.entryFor] at h
    split at h
    . next m hm =>
      cases h
      intro m' hm'
      cases hm'
      exact ofName_of_named? hname (Catalog.named?_of_lookup hm)
    . cases h
    . cases h

end Entry

namespace DayMenu

theorem ofNames_names_ofNames (catalog : Catalog) (row : List (Option String)) :
    ofNames catalog ((ofNames catalog row).names.map some) = ofNames catalog row := by
  simp [ofNames, names]

theorem ofNames_names_empty (catalog : Catalog) :
    ofNames catalog (empty.names.map some) = empty := by
  rfl

end DayMenu

namespace Grid

structure Restored (catalog : Catalog) (g g' : Grid) : Prop where
  dayCount : g'.dayCount = g.dayCount
  slot : ∀ day zone e, g.slot? day zone = some e →
    ∃ e', g'.slot? day zone = some e' ∧ Entry.Restores catalog e.name e'

variable {catalog : Catalog} {g : Grid}

theorem slot?_rebind (catalog : Catalog) (g : Grid) (day : Nat) (zone : Zone) :
    (g.rebind catalog).slot? day zone
      =
    (g.slot? day zone).map fun e => Entry.ofName catalog e.name := by
  unfold slot? day? rebind
  cases zone <;> simp [DayMenu.ofNames, DayMenu.names, DayMenu.slot, Function.comp_def]

theorem restored_rebind (catalog : Catalog) (g : Grid) : Restored catalog g (g.rebind catalog) where
  dayCount := dayCount_rebind catalog g
  slot day zone e he := by
    refine ⟨Entry.ofName catalog e.name, ?_, Entry.restores_iff.mpr rfl⟩
    rw [slot?_rebind, he]
    rfl

theorem rebind_eq_self (h : ∀ d ∈ g.days, DayMenu.ofNames catalog (d.names.map some) = d) :
    g.rebind catalog = g := by
  unfold rebind
  rw [List.map_congr_left h, List.map_id']

theorem rebind_empty (catalog : Catalog) (n : Nat) : (empty n).rebind catalog = empty n := by
  apply rebind_eq_self
  intro d hd
  rw [List.eq_of_mem_replicate hd]
  apply DayMenu.ofNames_names_empty

theorem rebind_ofNames (catalog : Catalog) (n : Nat) (rows : List (List (Option String))) :
    (ofNames catalog n rows).rebind catalog = ofNames catalog n rows := by
  apply rebind_eq_self
  intro d hd
  unfold ofNames at hd
  rw [List.mem_append] at hd
  cases hd with
  | inl hrow =>
    obtain ⟨row, _, rfl⟩ := List.mem_map.mp hrow
    apply DayMenu.ofNames_names_ofNames
  | inr hmissing =>
    rw [List.eq_of_mem_replicate hmissing]
    apply DayMenu.ofNames_names_empty

@[simp]
theorem rebind_ofSaved (catalog : Catalog) (n : Nat) (text : Option String) :
    (ofSaved catalog n text).rebind catalog = ofSaved catalog n text := by
  unfold ofSaved
  split
  . apply rebind_ofNames
  . apply rebind_empty

def Bound (catalog : Catalog) (g : Grid) : Prop :=
  ∀ d ∈ g.days, ∀ zone, (d.slot zone).Bound catalog

theorem bound_empty (catalog : Catalog) (n : Nat) : (empty n).Bound catalog := by
  intro d hd zone
  rw [List.eq_of_mem_replicate hd]
  cases zone <;> apply Entry.bound_text

theorem Bound.edit {g' : Grid} {t : DayTable} {text message : String} (h : g.Bound catalog)
    (he : g.edit catalog t (Command.parse? text) = .ok (g', message)) : g'.Bound catalog := by
  apply forall_days_edit h _ he
  intro cmd label d d' hp hd hde
  apply DayMenu.forall_slot_edit hd (Entry.bound_text catalog "") _ hde
  rintro token zone kind value e m rfl hentry
  exact Entry.bound_of_entryFor (Command.value?_ne_of_parse? hp) hentry

theorem Bound.slot?_rebind {day : Nat} {zone : Zone} {m : Meal} (h : g.Bound catalog)
    (hm : g.slot? day zone = some (.meal m)) :
    (g.rebind catalog).slot? day zone = some (.meal m) := by
  obtain ⟨d, hd, hslot⟩ := Option.map_eq_some_iff.mp hm
  have hbound := h d (List.mem_of_getElem? hd) zone m hslot
  rw [Grid.slot?_rebind, hm]
  exact congrArg some hbound

end Grid
end WeekMenu

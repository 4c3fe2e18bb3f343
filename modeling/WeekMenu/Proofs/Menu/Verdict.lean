import WeekMenu.Proofs.Menu.Edit

/-!
This module contains the rules by which a command is accepted or rejected, and what an accepted one
changes, stated without the steps that carry it out.
-/

namespace WeekMenu

inductive Command.Puts (catalog : Catalog) : Command → Zone → Entry → Prop where
  | clear {token zone} : Puts catalog (.clear token zone) zone .unset
  | clearBelow {token} : Puts catalog (.clear token .upper) .lower .unset
  | text {token zone value} : Puts catalog (.set token zone .text value) zone (.text value)
  | sandwich {token zone value m} : catalog.lookup value = .unique m →
    Puts catalog (.set token zone .sandwich value) zone (.meal m)

namespace Grid

def Writable (g : Grid) (day : Nat) (zone : Zone) : Prop :=
  zone = .upper ∨ ∃ e, g.slot? day .upper = some e ∧ e.isUnset = false

inductive Admits (g : Grid) (catalog : Catalog) (t : DayTable) : Option Command → Prop where
  | clear {token zone day} : t.resolve token = some day →
    Admits g catalog t (some (.clear token zone))
  | text {token zone value day} : t.resolve token = some day → g.Writable day zone →
    Admits g catalog t (some (.set token zone .text value))
  | sandwich {token zone value day m} : t.resolve token = some day → g.Writable day zone →
    catalog.lookup value = .unique m → Admits g catalog t (some (.set token zone .sandwich value))

/--
A command is rejected: it fails a check and passes those before it. The checks come in the order of
these rules.
-/
inductive Refuses (g : Grid) (catalog : Catalog) (t : DayTable) :
    Option Command → Rejection → Prop where
  | malformed : Refuses g catalog t none .invalidSyntax
  | generate : Refuses g catalog t (some .generate) .generationUnavailable
  | unknownDay {cmd token} : cmd.token? = some token → t.resolve token = none →
    Refuses g catalog t (some cmd) (.unknownDay token)
  | upperFirst {token zone kind value day label} : t.resolve token = some day →
    t.label? day = some label → ¬g.Writable day zone →
    Refuses g catalog t (some (.set token zone kind value)) (.upperZoneFirst label)
  | ambiguous {token zone value day n} : t.resolve token = some day → g.Writable day zone →
    catalog.lookup value = .ambiguous n →
    Refuses g catalog t (some (.set token zone .sandwich value)) (.ambiguousMeal value)
  | notFound {token zone value day} : t.resolve token = some day → g.Writable day zone →
    catalog.lookup value = .notFound →
    Refuses g catalog t (some (.set token zone .sandwich value)) (.mealNotFound value)

structure Changed (catalog : Catalog) (day : Nat) (cmd : Command) (g g' : Grid) : Prop where
  dayCount : g'.dayCount = g.dayCount
  put : ∀ zone e, cmd.Puts catalog zone e → g'.slot? day zone = some e
  keep : ∀ other zone, (other ≠ day ∨ ∀ e, ¬cmd.Puts catalog zone e) →
    g'.slot? other zone = g.slot? other zone

variable {g g' : Grid} {catalog : Catalog} {t : DayTable} {cmd? : Option Command}

theorem accepts_iff_writable {day : Nat} {d : DayMenu} (hd : g.day? day = some d) (zone : Zone) :
    d.accepts zone = true ↔ g.Writable day zone := by
  cases zone with
  | upper => simp [DayMenu.accepts, Writable]
  | lower => simp [DayMenu.accepts, DayMenu.acceptsLower, Writable, slot?, hd, DayMenu.slot]

theorem admits_or_refuses (g : Grid) (catalog : Catalog) (t : DayTable) (cmd? : Option Command) :
    g.Admits catalog t cmd? ∨ ∃ r, g.Refuses catalog t cmd? r := by
  cases cmd? with
  | none => exact Or.inr ⟨_, .malformed⟩
  | some cmd =>
    cases cmd with
    | generate => exact Or.inr ⟨_, .generate⟩
    | clear token zone =>
      cases hr : t.resolve token with
      | none => exact Or.inr ⟨_, .unknownDay rfl hr⟩
      | some day => exact Or.inl (.clear hr)
    | set token zone kind value =>
      cases hr : t.resolve token with
      | none => exact Or.inr ⟨_, .unknownDay rfl hr⟩
      | some day =>
        obtain ⟨label, hl⟩ := DayTable.label?_of_resolve hr
        by_cases hz : g.Writable day zone
        . cases kind with
          | text => exact Or.inl (.text hr hz)
          | sandwich =>
            cases hm : catalog.lookup value with
            | unique m => exact Or.inl (.sandwich hr hz hm)
            | ambiguous n => exact Or.inr ⟨_, .ambiguous hr hz hm⟩
            | notFound => exact Or.inr ⟨_, .notFound hr hz hm⟩
        . exact Or.inr ⟨_, .upperFirst hr hl hz⟩

theorem edit_set_of_writable {token : String} {zone : Zone} {day : Nat}
    (hg : g.dayCount = t.dayCount) (hr : t.resolve token = some day) (hz : g.Writable day zone)
    (catalog : Catalog) (kind : SlotKind) (value : String) :
    ∃ label, ∃ d : DayMenu, g.edit catalog t (some (.set token zone kind value))
      =
    (entryFor catalog label zone kind value).map fun (e, m) => (g.setDay day (d.put zone e), m) := by
  obtain ⟨label, hl⟩ := DayTable.label?_of_resolve hr
  obtain ⟨d, hd⟩ := day?_of_lt (hg ▸ DayTable.resolve_lt hr)
  refine ⟨label, d, ?_⟩
  rw [edit_of_resolve catalog rfl hr hl hd, DayMenu.edit]
  rw [if_pos ((accepts_iff_writable hd zone).mpr hz)]
  cases entryFor catalog label zone kind value <;> rfl

theorem edit_of_admits (hg : g.dayCount = t.dayCount) (h : g.Admits catalog t cmd?) :
    ∃ g' message, g.edit catalog t cmd? = .ok (g', message) := by
  cases h with
  | clear hr =>
    obtain ⟨label, hl⟩ := DayTable.label?_of_resolve hr
    obtain ⟨d, hd⟩ := day?_of_lt (hg ▸ DayTable.resolve_lt hr)
    rw [edit_of_resolve catalog rfl hr hl hd]
    exact ⟨_, _, rfl⟩
  | text hr hz =>
    obtain ⟨label, d, he⟩ := edit_set_of_writable hg hr hz catalog .text _
    rw [he]
    exact ⟨_, _, rfl⟩
  | sandwich hr hz hm =>
    obtain ⟨label, d, he⟩ := edit_set_of_writable hg hr hz catalog .sandwich _
    rw [he]
    simp only [entryFor, hm]
    exact ⟨_, _, rfl⟩

theorem edit_of_refuses {r : Rejection} (hg : g.dayCount = t.dayCount)
    (h : g.Refuses catalog t cmd? r) : g.edit catalog t cmd? = .error r := by
  cases h with
  | malformed => rfl
  | generate => rfl
  | unknownDay hc hr => exact edit_of_resolve_none catalog hc hr
  | upperFirst hr hl hz =>
    obtain ⟨d, hd⟩ := day?_of_lt (hg ▸ DayTable.resolve_lt hr)
    rw [← accepts_iff_writable hd] at hz
    rw [edit_of_resolve catalog rfl hr hl hd, DayMenu.edit, if_neg hz]
    rfl
  | ambiguous hr hz hm =>
    obtain ⟨label, d, he⟩ := edit_set_of_writable hg hr hz catalog .sandwich _
    rw [he]
    simp only [entryFor, hm]
    rfl
  | notFound hr hz hm =>
    obtain ⟨label, d, he⟩ := edit_set_of_writable hg hr hz catalog .sandwich _
    rw [he]
    simp only [entryFor, hm]
    rfl

theorem edit_eq_error_iff {r : Rejection} (hg : g.dayCount = t.dayCount) :
    g.edit catalog t cmd? = .error r ↔ g.Refuses catalog t cmd? r := by
  constructor
  . intro he
    cases admits_or_refuses g catalog t cmd? with
    | inl hadmits =>
      obtain ⟨_, _, hok⟩ := edit_of_admits hg hadmits
      rw [hok] at he
      cases he
    | inr hrefuses =>
      obtain ⟨r', hr'⟩ := hrefuses
      rw [edit_of_refuses hg hr'] at he
      cases he
      exact hr'
  . apply edit_of_refuses hg

theorem edit_isOk_iff (hg : g.dayCount = t.dayCount) :
    (∃ g' message, g.edit catalog t cmd? = .ok (g', message)) ↔ g.Admits catalog t cmd? := by
  constructor
  . rintro ⟨g', message, hok⟩
    cases admits_or_refuses g catalog t cmd? with
    | inl hadmits => exact hadmits
    | inr hrefuses =>
      obtain ⟨r, hr⟩ := hrefuses
      rw [edit_of_refuses hg hr] at hok
      cases hok
  . apply edit_of_admits hg

theorem slot?_setDay_self {day : Nat} (h : day < g.dayCount) (d : DayMenu) (zone : Zone) :
    (g.setDay day d).slot? day zone = some (d.slot zone) := by
  unfold slot?
  rw [day?_setDay_self h]
  rfl

theorem slot?_setDay_of_ne {day other : Nat} (h : day ≠ other) (d : DayMenu) (zone : Zone) :
    (g.setDay day d).slot? other zone = g.slot? other zone := by
  unfold slot?
  rw [day?_setDay_of_ne h]

end Grid

namespace DayMenu

theorem slot_edit_of_puts {d d' : DayMenu} {catalog : Catalog} {label message : String}
    {cmd : Command} {zone : Zone} {e : Entry} (h : d.edit catalog label cmd = .ok (d', message))
    (hp : cmd.Puts catalog zone e) : d'.slot zone = e := by
  rcases edit_eq_ok h with ⟨token, z, rfl, rfl⟩ | ⟨token, z, kind, value, e', rfl, _, he, rfl⟩
  . cases hp with
    | clear => cases zone <;> rfl
    | clearBelow => rfl
  . cases hp with
    | text =>
      cases he
      apply slot_put_self
    | sandwich hm =>
      simp only [Grid.entryFor, hm] at he
      cases he
      apply slot_put_self

theorem slot_edit_of_not_puts {d d' : DayMenu} {catalog : Catalog} {label message : String}
    {cmd : Command} {zone : Zone} (h : d.edit catalog label cmd = .ok (d', message))
    (hp : ∀ e, ¬cmd.Puts catalog zone e) : d'.slot zone = d.slot zone := by
  rcases edit_eq_ok h with ⟨token, z, rfl, rfl⟩ | ⟨token, z, kind, value, e', rfl, _, he, rfl⟩
  . cases z with
    | upper =>
      cases zone with
      | upper => exact absurd .clear (hp _)
      | lower => exact absurd .clearBelow (hp _)
    | lower =>
      cases zone with
      | upper => rfl
      | lower => exact absurd .clear (hp _)
  . have hne : zone ≠ z := by
      rintro rfl
      cases kind with
      | text => exact hp _ .text
      | sandwich =>
        simp only [Grid.entryFor] at he
        split at he
        . next m hm => exact hp _ (.sandwich hm)
        . cases he
        . cases he
    cases z with
    | upper =>
      cases zone with
      | upper => contradiction
      | lower => rfl
    | lower =>
      cases zone with
      | upper => rfl
      | lower => contradiction

end DayMenu

namespace Grid

variable {g g' : Grid} {catalog : Catalog} {t : DayTable} {cmd? : Option Command}

theorem changed_of_edit {message : String} (hg : g.dayCount = t.dayCount)
    (h : g.edit catalog t cmd? = .ok (g', message)) :
    ∃ cmd token day, cmd? = some cmd ∧ cmd.token? = some token ∧ t.resolve token = some day ∧
      Changed catalog day cmd g g' := by
  obtain ⟨cmd, token, day, label, d, d', hcmd, hc, hr, _, hd, hde, rfl⟩ := edit_eq_ok hg h
  have hlt : day < g.dayCount := hg ▸ DayTable.resolve_lt hr
  refine ⟨cmd, token, day, hcmd, hc, hr, dayCount_setDay g day d', ?_, ?_⟩
  . intro zone e hp
    rw [slot?_setDay_self hlt, DayMenu.slot_edit_of_puts hde hp]
  . intro other zone hother
    by_cases heq : day = other
    . subst heq
      have hp : ∀ e, ¬cmd.Puts catalog zone e := by
        simpa using hother
      rw [slot?_setDay_self hlt, DayMenu.slot_edit_of_not_puts hde hp]
      simp [slot?, hd]
    . exact slot?_setDay_of_ne heq d' zone

end Grid
end WeekMenu

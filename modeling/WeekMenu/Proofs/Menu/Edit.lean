import WeekMenu.Menu.Edit

/-!
This module contains the effect of a command on a single day, and the proof that a command changes
nothing of a grid but the day that its token addresses.
-/

namespace WeekMenu

namespace DayTable

theorem resolve_lt {t : DayTable} {token : String} {day : Nat} (h : t.resolve token = some day) :
    day < t.dayCount := by
  unfold resolve at h
  rw [List.findIdx?_eq_some_iff_getElem] at h
  obtain ⟨hlt, _⟩ := h
  simpa [lowerLabels, dayCount] using hlt

theorem label?_of_resolve {t : DayTable} {token : String} {day : Nat}
    (h : t.resolve token = some day) : ∃ label, t.label? day = some label := by
  have hlt := resolve_lt h
  unfold dayCount at hlt
  exact ⟨t.labels[day], by simp [label?, hlt]⟩

theorem find_of_resolve_none {t : DayTable} {token : String} (h : t.resolve token = none) :
    t.find token = .error (.unknownDay token) := by
  unfold find
  rw [h]

theorem find_of_resolve {t : DayTable} {token label : String} {day : Nat}
    (h : t.resolve token = some day) (hl : t.label? day = some label) :
    t.find token = .ok (day, label) := by
  unfold find
  rw [h]
  dsimp only
  rw [hl]

end DayTable

def Command.token? : Command → Option String
  | .generate => none
  | .clear token _ => some token
  | .set token _ _ _ => some token

namespace DayMenu

def clear (d : DayMenu) (zone : Zone) : DayMenu :=
  match zone with
  | .upper => .empty
  | .lower => d.put .lower .unset

def accepts (d : DayMenu) (zone : Zone) : Bool :=
  match zone with
  | .upper => true
  | .lower => d.acceptsLower

def edit (d : DayMenu) (catalog : Catalog) (label : String) :
    Command → Except Rejection (DayMenu × String)
  | .generate => .error .generationUnavailable
  | .clear _ zone => .ok (d.clear zone, s!"Cleared the {zone.label} zone for {label}.")
  | .set _ zone kind value =>
    if d.accepts zone then
      (Grid.entryFor catalog label zone kind value).map fun (e, message) => (d.put zone e, message)
    else
      .error (.upperZoneFirst label)

theorem edit_eq_ok {d d' : DayMenu} {catalog : Catalog} {label message : String} {cmd : Command}
    (h : d.edit catalog label cmd = .ok (d', message)) :
    (∃ token zone, cmd = .clear token zone ∧ d' = d.clear zone) ∨
    (∃ token zone kind value e, cmd = .set token zone kind value ∧ d.accepts zone = true ∧
      Grid.entryFor catalog label zone kind value = .ok (e, message) ∧ d' = d.put zone e) := by
  unfold edit at h
  split at h
  . cases h
  . next token zone =>
    cases h
    exact Or.inl ⟨token, zone, rfl, rfl⟩
  . next token zone kind value =>
    split at h
    . next hz =>
      cases he : Grid.entryFor catalog label zone kind value with
      | error r =>
        rw [he] at h
        cases h
      | ok result =>
        rw [he] at h
        cases h
        exact Or.inr ⟨token, zone, kind, value, result.1, rfl, hz, he, rfl⟩
    . cases h

theorem forall_slot_put {P : Entry → Prop} {d : DayMenu} {e : Entry}
    (h : ∀ zone, P (d.slot zone)) (he : P e) (zone : Zone) : ∀ z, P ((d.put zone e).slot z) := by
  intro z
  cases zone with
  | upper =>
    cases z with
    | upper => exact he
    | lower => exact h .lower
  | lower =>
    cases z with
    | upper => exact h .upper
    | lower => exact he

theorem forall_slot_clear {P : Entry → Prop} {d : DayMenu} (h : ∀ zone, P (d.slot zone))
    (hunset : P .unset) (zone : Zone) : ∀ z, P ((d.clear zone).slot z) := by
  cases zone with
  | upper =>
    intro z
    cases z <;> exact hunset
  | lower => exact forall_slot_put h hunset .lower

theorem forall_slot_edit {P : Entry → Prop} {d d' : DayMenu} {catalog : Catalog}
    {label message : String} {cmd : Command} (h : ∀ zone, P (d.slot zone)) (hunset : P .unset)
    (hset : ∀ token zone kind value e m, cmd = .set token zone kind value →
      Grid.entryFor catalog label zone kind value = .ok (e, m) → P e)
    (he : d.edit catalog label cmd = .ok (d', message)) : ∀ zone, P (d'.slot zone) := by
  rcases edit_eq_ok he with
    ⟨token, zone, rfl, rfl⟩ | ⟨token, zone, kind, value, e, rfl, _, hentry, rfl⟩
  . exact forall_slot_clear h hunset zone
  . exact forall_slot_put h (hset _ _ _ _ _ _ rfl hentry) zone

end DayMenu

namespace Grid

def setDay (g : Grid) (day : Nat) (d : DayMenu) : Grid :=
  ⟨g.days.set day d⟩

@[simp]
theorem dayCount_setDay (g : Grid) (day : Nat) (d : DayMenu) :
    (g.setDay day d).dayCount = g.dayCount := by
  simp [setDay, dayCount]

theorem forall_days_setDay {P : DayMenu → Prop} {g : Grid} {d : DayMenu} (h : ∀ d ∈ g.days, P d)
    (hd : P d) (day : Nat) : ∀ d' ∈ (g.setDay day d).days, P d' := by
  intro d' hd'
  cases List.mem_or_eq_of_mem_set hd' with
  | inl hmem => exact h d' hmem
  | inr heq => exact heq ▸ hd

theorem day?_setDay_self {g : Grid} {day : Nat} (h : day < g.dayCount) (d : DayMenu) :
    (g.setDay day d).day? day = some d := by
  unfold dayCount at h
  simp [setDay, day?, h]

theorem day?_setDay_of_ne {g : Grid} {day other : Nat} (h : day ≠ other) (d : DayMenu) :
    (g.setDay day d).day? other = g.day? other := by
  simp [setDay, day?, h]

theorem day?_of_lt {g : Grid} {day : Nat} (h : day < g.dayCount) : ∃ d, g.day? day = some d := by
  unfold dayCount at h
  exact ⟨g.days[day], by simp [day?, h]⟩

theorem put_eq_setDay {g : Grid} {day : Nat} {d : DayMenu} (h : g.day? day = some d) (zone : Zone)
    (e : Entry) : g.put day zone e = g.setDay day (d.put zone e) := by
  unfold day? at h
  unfold put setDay
  rw [List.modify_eq_set, h, Option.getD_some]

theorem clear_eq_setDay {g : Grid} {day : Nat} {d : DayMenu} (h : g.day? day = some d)
    (zone : Zone) : g.clear day zone = g.setDay day (d.clear zone) := by
  cases zone with
  | lower =>
    simp only [clear]
    rw [put_eq_setDay h]
    rfl
  | upper =>
    have hlt : day < g.dayCount := (List.getElem?_eq_some_iff.mp h).1
    simp only [clear]
    rw [put_eq_setDay h]
    rw [put_eq_setDay (day?_setDay_self hlt _)]
    unfold setDay
    rw [List.set_set]
    rfl

theorem accepts_eq_day_accepts {g : Grid} {day : Nat} {d : DayMenu} (h : g.day? day = some d)
    (zone : Zone) : g.accepts day zone = d.accepts zone := by
  cases zone with
  | upper => rfl
  | lower => simp [accepts, DayMenu.accepts, h]

theorem put_of_day?_none {g : Grid} {day : Nat} (h : g.day? day = none) (zone : Zone) (e : Entry) :
    g.put day zone e = g := by
  unfold day? at h
  unfold put
  rw [List.modify_eq_set, List.set_eq_of_length_le]
  simpa using h

theorem clear_of_day?_none {g : Grid} {day : Nat} (h : g.day? day = none) (zone : Zone) :
    g.clear day zone = g := by
  cases zone <;> simp only [clear, put_of_day?_none h]

theorem edit_of_resolve_none {g : Grid} {t : DayTable} {cmd : Command} {token : String}
    (catalog : Catalog) (hc : cmd.token? = some token) (hr : t.resolve token = none) :
    g.edit catalog t (some cmd) = .error (.unknownDay token) := by
  have hfind := DayTable.find_of_resolve_none hr
  cases cmd with
  | generate => simp [Command.token?] at hc
  | clear =>
    cases hc
    simp only [edit, hfind]
    rfl
  | set =>
    cases hc
    simp only [edit, hfind]
    rfl

theorem edit_of_resolve {g : Grid} {t : DayTable} {cmd : Command} {token label : String} {day : Nat}
    {d : DayMenu} (catalog : Catalog) (hc : cmd.token? = some token)
    (hr : t.resolve token = some day) (hl : t.label? day = some label) (hd : g.day? day = some d) :
    g.edit catalog t (some cmd)
      =
    (d.edit catalog label cmd).map fun (d, message) => (g.setDay day d, message) := by
  have hfind := DayTable.find_of_resolve hr hl
  cases cmd with
  | generate => simp [Command.token?] at hc
  | clear _ zone =>
    cases hc
    simp only [edit, hfind, bind, Except.bind, clear_eq_setDay hd]
    rfl
  | set _ zone kind value =>
    cases hc
    simp only [edit, hfind, bind, Except.bind, accepts_eq_day_accepts hd, DayMenu.edit]
    split
    . cases entryFor catalog label zone kind value with
      | error r => rfl
      | ok result =>
        dsimp only
        rw [put_eq_setDay hd]
        rfl
    . rfl

theorem eq_of_edit_of_day?_none {g g' : Grid} {t : DayTable} {catalog : Catalog} {cmd : Command}
    {token message : String} {day : Nat} (hc : cmd.token? = some token)
    (hr : t.resolve token = some day) (hd : g.day? day = none)
    (h : g.edit catalog t (some cmd) = .ok (g', message)) : g' = g := by
  obtain ⟨label, hl⟩ := DayTable.label?_of_resolve hr
  have hfind := DayTable.find_of_resolve hr hl
  cases cmd with
  | generate => cases hc
  | clear _ zone =>
    cases hc
    simp only [edit, hfind, bind, Except.bind] at h
    cases h
    apply clear_of_day?_none hd
  | set _ zone kind value =>
    cases hc
    simp only [edit, hfind, bind, Except.bind] at h
    split at h
    . cases he : entryFor catalog label zone kind value with
      | error r =>
        rw [he] at h
        cases h
      | ok result =>
        rw [he] at h
        cases h
        apply put_of_day?_none hd
    . cases h

theorem edit_cases (t : DayTable) (catalog : Catalog) (cmd? : Option Command) :
    (∃ r, ∀ g : Grid, g.edit catalog t cmd? = .error r) ∨
    (∃ cmd token day label, cmd? = some cmd ∧ cmd.token? = some token ∧
      t.resolve token = some day ∧ t.label? day = some label ∧
      ∀ (g : Grid) (d : DayMenu), g.day? day = some d →
        g.edit catalog t cmd?
          =
        (d.edit catalog label cmd).map fun (d, m) => (g.setDay day d, m)) := by
  cases cmd? with
  | none => exact Or.inl ⟨_, fun _ => rfl⟩
  | some cmd =>
    cases hc : cmd.token? with
    | none =>
      cases cmd with
      | generate => exact Or.inl ⟨_, fun _ => rfl⟩
      | clear => cases hc
      | set => cases hc
    | some token =>
      cases hr : t.resolve token with
      | none => exact Or.inl ⟨_, fun _ => edit_of_resolve_none catalog hc hr⟩
      | some day =>
        obtain ⟨label, hl⟩ := DayTable.label?_of_resolve hr
        refine Or.inr ⟨cmd, token, day, label, rfl, hc, hr, hl, ?_⟩
        intro g d hd
        exact edit_of_resolve catalog hc hr hl hd

theorem edit_eq_ok_cases {g g' : Grid} {t : DayTable} {catalog : Catalog} {cmd? : Option Command}
    {message : String} (h : g.edit catalog t cmd? = .ok (g', message)) :
    (∃ token day, t.resolve token = some day ∧ g.day? day = none ∧ g' = g) ∨
    (∃ cmd token day label d d', cmd? = some cmd ∧ cmd.token? = some token ∧
      t.resolve token = some day ∧ t.label? day = some label ∧ g.day? day = some d ∧
      d.edit catalog label cmd = .ok (d', message) ∧ g' = g.setDay day d') := by
  rcases edit_cases t catalog cmd? with
    ⟨r, hfail⟩ | ⟨cmd, token, day, label, hcmd, hc, hr, hl, hedit⟩
  . rw [hfail] at h
    cases h
  . cases hd : g.day? day with
    | none =>
      rw [hcmd] at h
      exact Or.inl ⟨token, day, hr, hd, eq_of_edit_of_day?_none hc hr hd h⟩
    | some d =>
      rw [hedit g d hd] at h
      cases he : d.edit catalog label cmd with
      | error r =>
        rw [he] at h
        cases h
      | ok result =>
        rw [he] at h
        cases h
        exact Or.inr ⟨cmd, token, day, label, d, result.1, hcmd, hc, hr, hl, hd, he, rfl⟩

theorem edit_eq_ok {g g' : Grid} {t : DayTable} {catalog : Catalog} {cmd? : Option Command}
    {message : String} (hg : g.dayCount = t.dayCount)
    (h : g.edit catalog t cmd? = .ok (g', message)) :
    ∃ cmd token day label d d', cmd? = some cmd ∧ cmd.token? = some token ∧
      t.resolve token = some day ∧ t.label? day = some label ∧ g.day? day = some d ∧
      d.edit catalog label cmd = .ok (d', message) ∧ g' = g.setDay day d' := by
  rcases edit_eq_ok_cases h with ⟨token, day, hr, hnone, _⟩ | hacts
  . obtain ⟨d, hd⟩ := day?_of_lt (hg ▸ DayTable.resolve_lt hr)
    rw [hnone] at hd
    cases hd
  . exact hacts

theorem forall_days_edit {P : DayMenu → Prop} {g g' : Grid} {t : DayTable} {catalog : Catalog}
    {cmd? : Option Command} {message : String} (hg : ∀ d ∈ g.days, P d)
    (hedit : ∀ cmd label d d', cmd? = some cmd → P d →
      d.edit catalog label cmd = .ok (d', message) → P d')
    (h : g.edit catalog t cmd? = .ok (g', message)) : ∀ d ∈ g'.days, P d := by
  rcases edit_eq_ok_cases h with
    ⟨_, _, _, _, rfl⟩ | ⟨cmd, _, day, label, d, d', hcmd, _, _, _, hd, he, rfl⟩
  . exact hg
  . apply forall_days_setDay hg
    exact hedit cmd label d d' hcmd (hg d (List.mem_of_getElem? hd)) he

theorem dayCount_edit {g g' : Grid} {t : DayTable} {catalog : Catalog} {cmd? : Option Command}
    {message : String} (h : g.edit catalog t cmd? = .ok (g', message)) :
    g'.dayCount = g.dayCount := by
  rcases edit_eq_ok_cases h with ⟨_, _, _, _, rfl⟩ | ⟨_, _, _, _, _, _, _, _, _, _, _, _, rfl⟩
  . rfl
  . apply dayCount_setDay

end Grid
end WeekMenu

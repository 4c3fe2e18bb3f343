import WeekMenu.Proofs.Menu.Edit

/-!
This module contains the proof that commands for different days do not disturb one another, and that
a command that was accepted is accepted again and then changes nothing.
-/

namespace WeekMenu

def DayTable.dayOf? (t : DayTable) (cmd? : Option Command) : Option Nat :=
  (cmd?.bind Command.token?).bind t.resolve

theorem DayTable.dayOf?_some {t : DayTable} {cmd : Command} {token : String} {day : Nat}
    (hc : cmd.token? = some token) (hr : t.resolve token = some day) :
    t.dayOf? (some cmd) = some day := by
  simp [dayOf?, hc, hr]

namespace DayMenu

theorem put_put (d : DayMenu) (zone : Zone) (e : Entry) :
    (d.put zone e).put zone e = d.put zone e := by
  cases zone <;> rfl

theorem clear_clear (d : DayMenu) (zone : Zone) : (d.clear zone).clear zone = d.clear zone := by
  cases zone <;> rfl

theorem accepts_put (d : DayMenu) (zone : Zone) (e : Entry) :
    (d.put zone e).accepts zone = d.accepts zone := by
  cases zone <;> rfl

theorem edit_again {d d' : DayMenu} {catalog : Catalog} {label message : String} {cmd : Command}
    (h : d.edit catalog label cmd = .ok (d', message)) :
    d'.edit catalog label cmd = .ok (d', message) := by
  rcases edit_eq_ok h with
    ⟨token, zone, rfl, rfl⟩ | ⟨token, zone, kind, value, e, rfl, hz, he, rfl⟩
  . simp only [edit, clear_clear] at h ⊢
    exact h
  . simp only [edit, accepts_put, hz, he, Except.map, put_put, if_true]

end DayMenu

namespace Grid

variable {g g' ga gb : Grid} {t : DayTable} {catalog : Catalog} {cmd? a b : Option Command}
  {day other : Nat} {d : DayMenu}

theorem setDay_of_day?_none (h : g.day? day = none) (d : DayMenu) : g.setDay day d = g := by
  unfold day? at h
  unfold setDay
  rw [List.set_eq_of_length_le]
  simpa using h

theorem setDay_setDay (g : Grid) (day : Nat) (d e : DayMenu) :
    (g.setDay day d).setDay day e = g.setDay day e := by
  unfold setDay
  rw [List.set_set]

theorem setDay_comm (h : day ≠ other) (g : Grid) (d e : DayMenu) :
    (g.setDay day d).setDay other e = (g.setDay other e).setDay day d := by
  unfold setDay
  rw [List.set_comm _ _ h]

theorem put_setDay (h : day ≠ other) (g : Grid) (d : DayMenu) (zone : Zone) (e : Entry) :
    (g.setDay day d).put other zone e = (g.put other zone e).setDay day d := by
  cases ho : g.day? other with
  | none =>
    rw [put_of_day?_none ho, put_of_day?_none]
    rw [day?_setDay_of_ne h, ho]
  | some o =>
    have ho' : (g.setDay day d).day? other = some o := by
      rw [day?_setDay_of_ne h, ho]
    rw [put_eq_setDay ho, put_eq_setDay ho', setDay_comm h]

theorem clear_setDay (h : day ≠ other) (g : Grid) (d : DayMenu) (zone : Zone) :
    (g.setDay day d).clear other zone = (g.clear other zone).setDay day d := by
  cases zone <;> simp only [clear, put_setDay h]

theorem accepts_setDay (h : day ≠ other) (g : Grid) (d : DayMenu) (zone : Zone) :
    (g.setDay day d).accepts other zone = g.accepts other zone := by
  cases zone with
  | upper => rfl
  | lower => simp only [accepts, day?_setDay_of_ne h]

theorem edit_setDay (h : t.dayOf? cmd? ≠ some day) (g : Grid) (d : DayMenu) (catalog : Catalog) :
    (g.setDay day d).edit catalog t cmd?
      =
    (g.edit catalog t cmd?).map fun (g', m) => (g'.setDay day d, m) := by
  cases cmd? with
  | none => rfl
  | some cmd =>
    cases hc : cmd.token? with
    | none =>
      cases cmd with
      | generate => rfl
      | clear => cases hc
      | set => cases hc
    | some token =>
      cases hr : t.resolve token with
      | none =>
        rw [edit_of_resolve_none catalog hc hr, edit_of_resolve_none catalog hc hr]
        rfl
      | some other =>
        have hne : day ≠ other := by
          rintro rfl
          exact h (DayTable.dayOf?_some hc hr)
        obtain ⟨label, hl⟩ := DayTable.label?_of_resolve hr
        have hfind := DayTable.find_of_resolve hr hl
        cases cmd with
        | generate => cases hc
        | clear _ zone =>
          cases hc
          simp only [edit, hfind, bind, Except.bind, clear_setDay hne]
          rfl
        | set _ zone kind value =>
          cases hc
          simp only [edit, hfind, bind, Except.bind, accepts_setDay hne]
          split
          . cases entryFor catalog label zone kind value with
            | error r => rfl
            | ok result =>
              dsimp only
              rw [put_setDay hne]
              rfl
          . rfl

theorem eq_setDay_of_edit {message : String} (h : g.edit catalog t cmd? = .ok (g', message)) :
    ∃ day d, t.dayOf? cmd? = some day ∧ g' = g.setDay day d := by
  rcases edit_cases t catalog cmd? with
    ⟨r, hfail⟩ | ⟨cmd, token, day, label, rfl, hc, hr, _, hedit⟩
  . rw [hfail] at h
    cases h
  . have hday : t.dayOf? (some cmd) = some day := by
      simp [DayTable.dayOf?, hc, hr]
    cases hd : g.day? day with
    | none =>
      refine ⟨day, .empty, hday, ?_⟩
      rw [setDay_of_day?_none hd]
      exact eq_of_edit_of_day?_none hc hr hd h
    | some d =>
      rw [hedit g d hd] at h
      cases he : d.edit catalog label cmd with
      | error r =>
        rw [he] at h
        cases h
      | ok result =>
        rw [he] at h
        cases h
        exact ⟨day, result.1, hday, rfl⟩

def Apart (t : DayTable) (a b : Option Command) : Prop :=
  ∀ day, t.dayOf? a = some day → t.dayOf? b ≠ some day

theorem edit_error_of_apart {message : String} {r : Rejection} (hne : Apart t a b)
    (ha : g.edit catalog t a = .ok (ga, message)) (hb : g.edit catalog t b = .error r) :
    ga.edit catalog t b = .error r := by
  obtain ⟨day, d, hday, rfl⟩ := eq_setDay_of_edit ha
  rw [edit_setDay (hne day hday), hb]
  rfl

theorem edit_ok_of_apart {ma mb : String} (hne : Apart t a b)
    (ha : g.edit catalog t a = .ok (ga, ma)) (hb : g.edit catalog t b = .ok (gb, mb)) :
    ∃ g', ga.edit catalog t b = .ok (g', mb) ∧ gb.edit catalog t a = .ok (g', ma) := by
  obtain ⟨i, d, hi, rfl⟩ := eq_setDay_of_edit ha
  obtain ⟨j, e, hj, rfl⟩ := eq_setDay_of_edit hb
  have hij : i ≠ j := by
    rintro rfl
    exact hne i hi hj
  have hne' : t.dayOf? a ≠ some j := by
    rw [hi]
    simpa using hij
  refine ⟨(g.setDay j e).setDay i d, ?_, ?_⟩
  . rw [edit_setDay (hne i hi), hb]
    rfl
  . rw [edit_setDay hne', ha]
    change Except.ok ((g.setDay i d).setDay j e, ma) = _
    rw [setDay_comm hij]

theorem edit_again {message : String} (h : g.edit catalog t cmd? = .ok (g', message)) :
    g'.edit catalog t cmd? = .ok (g', message) := by
  rcases edit_eq_ok_cases h with
    ⟨_, _, _, _, rfl⟩ | ⟨cmd, token, day, label, d, d', rfl, hc, hr, hl, hd, he, rfl⟩
  . exact h
  . have hlt : day < g.dayCount := (List.getElem?_eq_some_iff.mp hd).1
    rw [edit_of_resolve catalog hc hr hl (day?_setDay_self hlt d'), DayMenu.edit_again he]
    change Except.ok ((g.setDay day d').setDay day d', message) = _
    rw [setDay_setDay]

end Grid
end WeekMenu

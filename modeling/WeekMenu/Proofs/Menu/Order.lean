import WeekMenu.Proofs.Menu.Saved

/-!
This module contains the order of the slots of a day: a lower slot is set only together with the
upper one. Every command keeps it, and so does saving and loading.
-/

namespace WeekMenu

namespace DayMenu

def Ordered (d : DayMenu) : Prop :=
  d.lower.isUnset = false → d.upper.isUnset = false

theorem ordered_of_lower_unset {d : DayMenu} (h : d.lower.isUnset = true) : d.Ordered := by
  intro hlower
  rw [h] at hlower
  cases hlower

theorem ordered_of_upper_set {d : DayMenu} (h : d.upper.isUnset = false) : d.Ordered := by
  intro _
  exact h

theorem ordered_of_edit {d d' : DayMenu} {catalog : Catalog} {label message : String}
    {cmd : Command} (hv : cmd.value? ≠ some "") (he : d.edit catalog label cmd = .ok (d', message)) :
    d'.Ordered := by
  rcases edit_eq_ok he with
    ⟨token, zone, rfl, rfl⟩ | ⟨token, zone, kind, value, e, rfl, hz, hentry, rfl⟩
  . -- Both ways of clearing empty the lower slot.
    apply ordered_of_lower_unset
    cases zone <;> rfl
  . cases zone with
    | upper =>
      have hname := Entry.name_ne_of_entryFor hv hentry
      have hnamed := Entry.named_of_name_ne hname
      apply ordered_of_upper_set
      rw [Bool.eq_false_iff]
      intro hu
      exact hname (hnamed.isUnset_iff.mp hu)
    | lower =>
      apply ordered_of_upper_set
      simpa [accepts, acceptsLower, put] using hz

theorem Alike.ordered {d k : DayMenu} (h : Alike d k) (hd : d.Ordered) : k.Ordered := by
  unfold Ordered
  rw [← h.left.1.isUnset_eq h.right.1 h.upper, ← h.left.2.isUnset_eq h.right.2 h.lower]
  exact hd

end DayMenu

namespace Grid

def Ordered (g : Grid) : Prop :=
  ∀ d ∈ g.days, d.Ordered

theorem ordered_empty (n : Nat) : (empty n).Ordered := by
  intro d hd
  rw [List.eq_of_mem_replicate hd]
  exact DayMenu.ordered_of_lower_unset rfl

theorem Alike.ordered {g k : Grid} (h : Alike g k) (hg : g.Ordered) : k.Ordered := by
  intro d hd
  obtain ⟨day, hget⟩ := List.getElem?_of_mem hd
  have hday : k.day? day = some d := hget
  obtain ⟨d', hd', halike⟩ := h.symm.day? hday
  have hmem : d' ∈ g.days := List.mem_of_getElem? hd'
  exact halike.symm.ordered (hg d' hmem)

structure Sound (n : Nat) (g : Grid) : Prop where
  dayCount : g.dayCount = n
  ordered : g.Ordered
  named : g.Named

namespace Sound

theorem empty (n : Nat) : Sound n (Grid.empty n) where
  dayCount := dayCount_empty n
  ordered := ordered_empty n
  named := named_empty n

theorem edit {g g' : Grid} {t : DayTable} {catalog : Catalog} {text message : String}
    (h : Sound t.dayCount g)
    (he : g.edit catalog t (Command.parse? text) = .ok (g', message)) : Sound t.dayCount g' := by
  constructor
  . rw [dayCount_edit he, h.dayCount]
  . apply forall_days_edit h.ordered _ he
    intro cmd label d d' hp _ hde
    exact DayMenu.ordered_of_edit (Command.value?_ne_of_parse? hp) hde
  . apply forall_days_edit h.named _ he
    intro cmd label d d' hp hnamed hde
    exact hnamed.edit (Command.value?_ne_of_parse? hp) hde

theorem ofSaved_toSaved {g : Grid} {n : Nat} (h : Sound n g) (catalog : Catalog) :
    Sound n (ofSaved catalog n (some g.toSaved)) := by
  have halike := alike_ofSaved_toSaved catalog h.named h.dayCount
  exact ⟨dayCount_ofSaved catalog n _, halike.ordered h.ordered, halike.right⟩

end Sound
end Grid
end WeekMenu

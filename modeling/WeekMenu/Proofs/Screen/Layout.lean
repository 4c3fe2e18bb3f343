import WeekMenu.Proofs.Terminal.Rect
import WeekMenu.Screen.Layout

/-!
This module contains facts about the layout of the week: the columns of the days fill the inside of
its border, the cells of a day fill its column, and a cell of the terminal that is clicked belongs
to exactly one slot unless it lies on the border or beside a label.
-/

namespace WeekMenu
namespace Screen

structure DayCells.Stacked (column : Rect) (cells : DayCells) : Prop where
  wide : ∀ part ∈ [cells.label, cells.upper, cells.lower],
    part.x = column.x ∧ part.width = column.width
  top : cells.label.y = column.y
  upper : cells.label.bottom = cells.upper.y
  lower : cells.upper.bottom = cells.lower.y
  bottom : cells.lower.bottom = column.bottom

theorem stacked_dayCells (column : Rect) : (dayCells column).Stacked column where
  wide part hpart := by
    simp only [dayCells, List.mem_cons, List.not_mem_nil, or_false] at hpart
    rcases hpart with rfl | rfl | rfl
    all_goals exact ⟨rfl, rfl⟩
  top := rfl
  upper := rfl
  lower := rfl
  bottom := by
    simp only [dayCells, Rect.bottom]
    omega

variable {column : Rect} {zone zone' : Zone} {x y : Nat}

theorem column_contains_of_zone (h : ((dayCells column).zone zone).contains x y = true) :
    column.contains x y = true := by
  rw [Rect.contains_iff] at h ⊢
  cases zone with
  | upper =>
    simp only [DayCells.zone, dayCells, Rect.right, Rect.bottom] at h ⊢
    omega
  | lower =>
    simp only [DayCells.zone, dayCells, Rect.right, Rect.bottom] at h ⊢
    omega

theorem zone_unique (h : ((dayCells column).zone zone).contains x y = true)
    (h' : ((dayCells column).zone zone').contains x y = true) : zone = zone' := by
  rw [Rect.contains_iff] at h h'
  cases zone with
  | upper =>
    cases zone' with
    | upper => rfl
    | lower =>
      simp only [DayCells.zone, dayCells, Rect.bottom] at h h'
      omega
  | lower =>
    cases zone' with
    | upper =>
      simp only [DayCells.zone, dayCells, Rect.bottom] at h h'
      omega
    | lower => rfl

theorem exists_zone_iff :
    (∃ zone, ((dayCells column).zone zone).contains x y = true) ↔
      column.contains x y = true ∧ column.y + 1 ≤ y := by
  constructor
  . rintro ⟨zone, h⟩
    refine ⟨column_contains_of_zone h, ?_⟩
    rw [Rect.contains_iff] at h
    cases zone with
    | upper =>
      simp only [DayCells.zone, dayCells, Rect.bottom] at h
      omega
    | lower =>
      simp only [DayCells.zone, dayCells, Rect.bottom] at h
      omega
  . rintro ⟨hcolumn, hlabel⟩
    rw [Rect.contains_iff] at hcolumn
    rcases Nat.lt_or_ge y (dayCells column).lower.y with habove | hbelow
    . refine ⟨.upper, ?_⟩
      rw [Rect.contains_iff]
      simp only [DayCells.zone, dayCells, Rect.right, Rect.bottom] at hcolumn habove ⊢
      omega
    . refine ⟨.lower, ?_⟩
      rw [Rect.contains_iff]
      simp only [DayCells.zone, dayCells, Rect.right, Rect.bottom] at hcolumn hbelow ⊢
      omega

theorem zoneAt_eq_some_iff :
    zoneAt column x y = some zone ↔ ((dayCells column).zone zone).contains x y = true := by
  unfold zoneAt
  dsimp only
  constructor
  . intro h
    split at h
    . next hupper =>
      cases h
      exact hupper
    . split at h
      . next hlower =>
        cases h
        exact hlower
      . cases h
  . intro h
    cases zone with
    | upper => exact if_pos h
    | lower =>
      have hupper : ¬((dayCells column).zone .upper).contains x y = true := by
        intro hupper
        cases zone_unique hupper h
      exact (if_neg hupper).trans (if_pos h)

def InSlot (area : Rect) (dayCount day : Nat) (zone : Zone) (x y : Nat) : Prop :=
  ∃ column, (dayColumns area dayCount)[day]? = some column ∧
    ((dayCells column).zone zone).contains x y = true

variable {area : Rect} {n day day' : Nat}

theorem inSlot_unique (h : InSlot area n day zone x y) (h' : InSlot area n day' zone' x y) :
    day' = day ∧ zone' = zone := by
  obtain ⟨column, hcolumn, hzone⟩ := h
  obtain ⟨column', hcolumn', hzone'⟩ := h'
  have hday : day' = day := by
    apply Rect.column_unique hcolumn' hcolumn
    . exact column_contains_of_zone hzone'
    . exact column_contains_of_zone hzone
  subst hday
  rw [hcolumn] at hcolumn'
  cases hcolumn'
  exact ⟨rfl, zone_unique hzone' hzone⟩

theorem inSlot_of_slotAt (h : slotAt area n x y = some (day, zone)) :
    InSlot area n day zone x y := by
  unfold slotAt at h
  obtain ⟨⟨column, k⟩, hmem, hzone⟩ := List.exists_of_findSome?_eq_some h
  obtain ⟨zone', hzone', heq⟩ := Option.map_eq_some_iff.mp hzone
  cases heq
  exact ⟨column, List.mem_zipIdx_iff_getElem?.mp hmem, zoneAt_eq_some_iff.mp hzone'⟩

theorem slotAt_eq_some_iff :
    slotAt area n x y = some (day, zone) ↔ InSlot area n day zone x y := by
  constructor
  . exact inSlot_of_slotAt
  . intro h
    cases hslot : slotAt area n x y with
    | some slot =>
      obtain ⟨day', zone'⟩ := slot
      obtain ⟨rfl, rfl⟩ := inSlot_unique h (inSlot_of_slotAt hslot)
      rfl
    | none =>
      obtain ⟨column, hcolumn, hzone⟩ := h
      unfold slotAt at hslot
      rw [List.findSome?_eq_none_iff] at hslot
      have hnone := hslot (column, day) (List.mem_zipIdx_iff_getElem?.mpr hcolumn)
      dsimp only at hnone
      rw [zoneAt_eq_some_iff.mpr hzone] at hnone
      cases hnone

theorem exists_inSlot_iff (hn : 0 < n) :
    (∃ day zone, InSlot area n day zone x y) ↔
      area.inside.contains x y = true ∧ area.inside.y + 1 ≤ y := by
  constructor
  . rintro ⟨day, zone, column, hcolumn, hzone⟩
    obtain ⟨hmem, hlabel⟩ := exists_zone_iff.mp ⟨zone, hzone⟩
    rw [(Rect.high_of_columns hcolumn).1] at hlabel
    exact ⟨Rect.contains_of_column hcolumn hmem, hlabel⟩
  . rintro ⟨hinside, hlabel⟩
    obtain ⟨day, column, hcolumn, hmem⟩ := Rect.exists_column hn hinside
    rw [← (Rect.high_of_columns hcolumn).1] at hlabel
    obtain ⟨zone, hzone⟩ := exists_zone_iff.mpr ⟨hmem, hlabel⟩
    exact ⟨day, zone, column, hcolumn, hzone⟩

theorem slotAt_cells (area : Rect) {n : Nat} (hn : 0 < n) :
    (dayColumns area n).length = n ∧ area.inside.SideBySide (dayColumns area n) ∧
    (∀ column ∈ dayColumns area n, (dayCells column).Stacked column) ∧
    ∀ x y,
      ((slotAt area n x y).isSome = true ↔
        area.x + 1 ≤ x ∧ x + 1 < area.right ∧ area.y + 2 ≤ y ∧ y + 1 < area.bottom) ∧
      ∀ day zone, slotAt area n x y = some (day, zone) →
        day < n ∧
        (∃ column, (dayColumns area n)[day]? = some column ∧ column.contains x y = true ∧
          ((dayCells column).zone zone).contains x y = true) ∧
        ∀ day' zone' column, (dayColumns area n)[day']? = some column →
          ((dayCells column).zone zone').contains x y = true → day' = day ∧ zone' = zone := by
  refine ⟨Rect.length_columns _ n, area.inside.sideBySide_columns hn, ?_, ?_⟩
  . intro column _
    exact stacked_dayCells column
  . intro x y
    constructor
    . have hslot : (slotAt area n x y).isSome = true ↔ ∃ day zone, InSlot area n day zone x y := by
        simp only [Option.isSome_iff_exists, Prod.exists, slotAt_eq_some_iff]
      rw [hslot, exists_inSlot_iff hn, Rect.contains_inside_iff]
      simp only [Rect.inside, Rect.bottom]
      omega
    . intro day zone hslot
      obtain ⟨column, hcolumn, hzone⟩ := inSlot_of_slotAt hslot
      refine ⟨(Rect.getElem?_columns.mp hcolumn).1, ?_, ?_⟩
      . exact ⟨column, hcolumn, column_contains_of_zone hzone, hzone⟩
      . intro day' zone' column' hcolumn' hzone'
        exact inSlot_unique ⟨column, hcolumn, hzone⟩ ⟨column', hcolumn', hzone'⟩

theorem slotAt_cells_narrow :
    0 < 5 ∧ dayColumns ⟨2, 1, 5, 7⟩ 5 =
      [⟨3, 2, 1, 5⟩, ⟨4, 2, 0, 5⟩, ⟨4, 2, 1, 5⟩, ⟨5, 2, 0, 5⟩, ⟨5, 2, 1, 5⟩] ∧
    slotAt ⟨2, 1, 5, 7⟩ 5 5 4 = some (4, .upper) ∧
    ∀ day' zone' column, (dayColumns ⟨2, 1, 5, 7⟩ 5)[day']? = some column →
      ((dayCells column).zone zone').contains 5 4 = true → day' = 4 ∧ zone' = .upper := by
  have hslot : slotAt ⟨2, 1, 5, 7⟩ 5 5 4 = some (4, .upper) := by decide
  obtain ⟨_, _, _, hcells⟩ := slotAt_cells ⟨2, 1, 5, 7⟩ (n := 5) (by decide)
  exact ⟨by decide, by decide, hslot, ((hcells 5 4).2 4 .upper hslot).2.2⟩

end Screen
end WeekMenu

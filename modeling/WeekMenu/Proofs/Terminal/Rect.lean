import Mathlib.Order.Monotone.Basic
import WeekMenu.Terminal.Rect

/-!
This module contains facts about rectangles that are cut into columns: although the boundaries are
rounded twice, the columns fill the rectangle without gaps and without cells in common.
-/

namespace WeekMenu

theorem roundDiv_mono {a b : Nat} (h : a ≤ b) (d : Nat) : roundDiv a d ≤ roundDiv b d := by
  unfold roundDiv
  apply Nat.div_le_div_right
  omega

theorem roundDiv_mul {d : Nat} (hd : 0 < d) (a : Nat) : roundDiv (a * d) d = a := by
  unfold roundDiv
  have heq : 2 * (a * d) + d = d + 2 * d * a := by
    rw [Nat.add_comm, Nat.mul_assoc, Nat.mul_comm a d]
  rw [heq, Nat.add_mul_div_left _ _ (by omega), Nat.div_eq_of_lt (by omega), Nat.zero_add]

namespace Rect

theorem contains_iff {r : Rect} {x y : Nat} :
    r.contains x y = true ↔ r.x ≤ x ∧ x < r.right ∧ r.y ≤ y ∧ y < r.bottom := by
  simp [contains, and_assoc]

theorem contains_inside_iff {r : Rect} {x y : Nat} :
    r.inside.contains x y = true ↔
      r.x + 1 ≤ x ∧ x + 1 < r.right ∧ r.y + 1 ≤ y ∧ y + 1 < r.bottom := by
  rw [contains_iff]
  simp only [inside, right, bottom]
  omega

theorem boundary_mono (r : Rect) (n : Nat) : Monotone (r.boundary n) := by
  intro k l hkl
  unfold boundary
  apply roundDiv_mono
  apply roundDiv_mono
  have := Nat.mul_le_mul_right r.width hkl
  omega

theorem boundary_zero (r : Rect) {n : Nat} (hn : 0 < n) : r.boundary n 0 = r.x := by
  have heq : 100 * (r.x * n + 0 * r.width) = r.x * 100 * n := by
    rw [Nat.zero_mul, Nat.add_zero, ← Nat.mul_assoc, Nat.mul_comm 100]
  unfold boundary
  rw [heq, roundDiv_mul hn, roundDiv_mul (by decide)]

theorem boundary_last (r : Rect) {n : Nat} (hn : 0 < n) : r.boundary n n = r.right := by
  have heq : 100 * (r.x * n + n * r.width) = (r.x + r.width) * 100 * n := by
    rw [Nat.mul_comm n, ← Nat.add_mul, ← Nat.mul_assoc, Nat.mul_comm 100]
  unfold boundary
  rw [heq, roundDiv_mul hn, roundDiv_mul (by decide)]
  rfl

theorem exists_step {step : Nat → Nat} {n a : Nat} (hfirst : step 0 ≤ a) (hlast : a < step n) :
    ∃ k < n, step k ≤ a ∧ a < step (k + 1) := by
  induction n with
  | zero => omega
  | succ n ih =>
    rcases Nat.lt_or_ge a (step n) with hlt | hge
    . obtain ⟨k, hk, hstep⟩ := ih hlt
      exact ⟨k, by omega, hstep⟩
    . exact ⟨n, by omega, hge, hlast⟩

theorem length_columns (r : Rect) (n : Nat) : (r.columns n).length = n := by
  simp [columns]

theorem getElem?_columns {r part : Rect} {n k : Nat} :
    (r.columns n)[k]? = some part ↔
      k < n ∧
        part = { r with x := r.boundary n k, width := r.boundary n (k + 1) - r.boundary n k } := by
  simp only [columns, List.getElem?_map, Option.map_eq_some_iff, List.getElem?_eq_some_iff,
    List.getElem_range, List.length_range]
  constructor
  . rintro ⟨_, ⟨hk, rfl⟩, rfl⟩
    exact ⟨hk, rfl⟩
  . rintro ⟨hk, rfl⟩
    exact ⟨k, ⟨hk, rfl⟩, rfl⟩

theorem x_of_columns {r part : Rect} {n k : Nat} (h : (r.columns n)[k]? = some part) :
    part.x = r.boundary n k := by
  rw [(getElem?_columns.mp h).2]

theorem right_of_columns {r part : Rect} {n k : Nat} (h : (r.columns n)[k]? = some part) :
    part.right = r.boundary n (k + 1) := by
  have := r.boundary_mono n (Nat.le_add_right k 1)
  rw [(getElem?_columns.mp h).2]
  simp only [right]
  omega

theorem high_of_columns {r part : Rect} {n k : Nat} (h : (r.columns n)[k]? = some part) :
    part.y = r.y ∧ part.height = r.height := by
  rw [(getElem?_columns.mp h).2]
  exact ⟨rfl, rfl⟩

structure SideBySide (r : Rect) (parts : List Rect) : Prop where
  high : ∀ part ∈ parts, part.y = r.y ∧ part.height = r.height
  first : parts.head?.map Rect.x = some r.x
  last : parts.getLast?.map Rect.right = some r.right
  adjacent : ∀ k part next, parts[k]? = some part → parts[k + 1]? = some next →
    part.right = next.x
  apart : parts.Pairwise fun part later => part.right ≤ later.x

theorem sideBySide_columns (r : Rect) {n : Nat} (hn : 0 < n) : r.SideBySide (r.columns n) where
  high part hpart := by
    obtain ⟨k, hk⟩ := List.mem_iff_getElem?.mp hpart
    exact high_of_columns hk
  first := by
    have hk : 0 < (r.columns n).length := by rwa [length_columns]
    rw [List.head?_eq_getElem?, List.getElem?_eq_getElem hk, Option.map_some,
      x_of_columns (List.getElem?_eq_getElem hk), boundary_zero r hn]
  last := by
    have hk : n - 1 < (r.columns n).length := by
      rw [length_columns]
      omega
    rw [List.getLast?_eq_getElem?, length_columns, List.getElem?_eq_getElem hk, Option.map_some,
      right_of_columns (List.getElem?_eq_getElem hk), Nat.sub_add_cancel hn, boundary_last r hn]
  adjacent k part next hpart hnext := by
    rw [right_of_columns hpart, x_of_columns hnext]
  apart := by
    rw [List.pairwise_iff_getElem]
    intro k l hk hl hkl
    rw [right_of_columns (List.getElem?_eq_getElem hk), x_of_columns (List.getElem?_eq_getElem hl)]
    exact r.boundary_mono n hkl

theorem exists_column {r : Rect} {n x y : Nat} (hn : 0 < n) (h : r.contains x y = true) :
    ∃ (k : Nat) (part : Rect), (r.columns n)[k]? = some part ∧ part.contains x y = true := by
  rw [contains_iff] at h
  obtain ⟨k, hk, hstep⟩ : ∃ k < n, r.boundary n k ≤ x ∧ x < r.boundary n (k + 1) := by
    apply exists_step
    . rw [boundary_zero r hn]
      exact h.1
    . rw [boundary_last r hn]
      exact h.2.1
  rw [← length_columns r n] at hk
  have hpart := List.getElem?_eq_getElem hk
  obtain ⟨hy, hheight⟩ := high_of_columns hpart
  refine ⟨k, _, hpart, ?_⟩
  rw [contains_iff, x_of_columns hpart, right_of_columns hpart, bottom, hy, hheight]
  exact ⟨hstep.1, hstep.2, h.2.2⟩

theorem contains_of_column {r part : Rect} {n k x y : Nat} (hpart : (r.columns n)[k]? = some part)
    (h : part.contains x y = true) : r.contains x y = true := by
  obtain ⟨hk, _⟩ := getElem?_columns.mp hpart
  have hn : 0 < n := by omega
  obtain ⟨hy, hheight⟩ := high_of_columns hpart
  rw [contains_iff, right_of_columns hpart, x_of_columns hpart, bottom, hy, hheight] at h
  rw [contains_iff, ← boundary_zero r hn, ← boundary_last r hn]
  have hfirst := r.boundary_mono n (Nat.zero_le k)
  have hlast := r.boundary_mono n hk
  exact ⟨hfirst.trans h.1, h.2.1.trans_le hlast, h.2.2⟩

theorem column_unique {r part part' : Rect} {n k k' x y : Nat}
    (hpart : (r.columns n)[k]? = some part) (hpart' : (r.columns n)[k']? = some part')
    (h : part.contains x y = true) (h' : part'.contains x y = true) : k = k' := by
  rw [contains_iff, right_of_columns hpart, x_of_columns hpart] at h
  rw [contains_iff, right_of_columns hpart', x_of_columns hpart'] at h'
  by_contra hne
  rcases Nat.lt_or_gt_of_ne hne with hlt | hgt
  . have hmono : r.boundary n (k + 1) ≤ r.boundary n k' := r.boundary_mono n hlt
    omega
  . have hmono : r.boundary n (k' + 1) ≤ r.boundary n k := r.boundary_mono n hgt
    omega

end Rect
end WeekMenu

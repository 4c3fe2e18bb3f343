import Mathlib.Data.List.Induction
import Mathlib.Data.List.Nodup

/-!
This module contains facts about the distinct elements of a list in the order in which they come
first, about how many of them a list of limited length has to keep, and about when the first
elements of a list put together from others are distinct.
-/

namespace WeekMenu
namespace Distinct

variable {α : Type} [DecidableEq α]

theorem eraseDups_filter (p : α → Bool) (as : List α) :
    (as.filter p).eraseDups = as.eraseDups.filter p := by
  induction as generalizing p with
  | nil => rfl
  | cons a as ih =>
    rw [List.eraseDups_cons, ih, List.filter_cons]
    split
    . next ha =>
      rw [List.eraseDups_cons, List.filter_filter, ih, List.filter_cons_of_pos ha,
        List.filter_filter]
      simp only [Bool.and_comm]
    . next ha =>
      rw [ih, List.filter_cons_of_neg ha, List.filter_filter]
      apply List.filter_congr
      intro b _
      cases hb : p b with
      | false => rfl
      | true =>
        have hne : b ≠ a := by
          rintro rfl
          exact ha hb
        simp [hne]

theorem eraseDups_cons (a : α) (as : List α) :
    (a :: as).eraseDups = a :: as.eraseDups.filter (· != a) := by
  rw [List.eraseDups_cons, eraseDups_filter]
  rfl

theorem nodup_eraseDups (as : List α) : as.eraseDups.Nodup := by
  induction as with
  | nil => exact List.nodup_nil
  | cons a as ih =>
    rw [eraseDups_cons, List.nodup_cons]
    constructor
    . simp
    . apply ih.filter

theorem eraseDups_eq_self {as : List α} (h : as.Nodup) : as.eraseDups = as := by
  induction as with
  | nil => rfl
  | cons a as ih =>
    rw [List.nodup_cons] at h
    rw [eraseDups_cons, ih h.2, List.filter_eq_self.mpr]
    intro b hb
    have hne : b ≠ a := by
      rintro rfl
      exact h.1 hb
    simpa using hne

theorem pairwise_idxOf_eraseDups (as : List α) :
    as.eraseDups.Pairwise fun a b => as.idxOf a < as.idxOf b := by
  induction as with
  | nil => exact List.Pairwise.nil
  | cons a as ih =>
    have hlater {b : α} (hb : b ∈ as.eraseDups.filter (· != a)) :
        (a :: as).idxOf b = as.idxOf b + 1 := by
      have hne : b ≠ a := by simpa using List.of_mem_filter hb
      exact List.idxOf_cons_ne as hne.symm
    rw [eraseDups_cons, List.pairwise_cons]
    constructor
    . intro b hb
      rw [hlater hb, List.idxOf_cons_self]
      apply Nat.succ_pos
    . apply (ih.filter _).imp_of_mem
      intro b c hb hc hlt
      rw [hlater hb, hlater hc]
      apply Nat.succ_lt_succ hlt

theorem take_filter_take {as : List α} (h : as.Nodup) (a : α) (n : Nat) :
    ((as.take (n + 1)).filter (· != a)).take n = (as.filter (· != a)).take n := by
  conv => rhs; rw [← List.take_append_drop (n + 1) as, List.filter_append]
  rcases Nat.lt_or_ge ((as.take (n + 1)).filter (· != a)).length n with hshort | hlong
  . -- Only one element can have been taken out, so the list was not longer than its first part.
    have hlength : (as.take (n + 1)).length - 1 ≤ ((as.take (n + 1)).filter (· != a)).length := by
      rw [← List.Nodup.erase_eq_filter h.take]
      apply List.le_length_erase
    rw [List.length_take] at hlength
    rw [List.drop_eq_nil_of_le (by omega), List.filter_nil, List.append_nil]
  . rw [List.take_append_of_le_length hlong]

omit [DecidableEq α] in
theorem nodup_take_flatMap_iff {β : Type} {f : β → List α}
    (hnodup : ∀ b, (f b).Nodup) (hapart : ∀ b b', b ≠ b' → (f b).Disjoint (f b')) (n : Nat)
    (bs : List β) :
    ((bs.flatMap f).take n).Nodup ↔
      ∀ before b after, bs = before ++ b :: after → b ∈ before →
        (f b).take (n - (before.flatMap f).length) = [] := by
  constructor
  . rintro h before b after rfl hmem
    rw [List.flatMap_append, List.flatMap_cons, List.take_append, List.take_append,
      List.nodup_append'] at h
    obtain ⟨_, _, hdisjoint⟩ := h
    rw [List.eq_nil_iff_forall_not_mem]
    intro a ha
    have hroom : (before.flatMap f).length ≤ n := by
      by_contra hfull
      rw [Nat.sub_eq_zero_of_le (by omega), List.take_zero] at ha
      cases ha
    apply hdisjoint (a := a)
    . rw [List.take_of_length_le hroom]
      exact List.mem_flatMap.mpr ⟨b, hmem, List.mem_of_mem_take ha⟩
    . exact List.mem_append_left _ ha
  . intro h
    induction bs using List.reverseRecOn with
    | nil => simp
    | append_singleton bs b ih =>
      have hlast := h bs b [] rfl
      have hinit : ((bs.flatMap f).take n).Nodup := by
        apply ih
        rintro before b' after rfl hmem
        apply h before b' (after ++ [b]) _ hmem
        simp
      rw [List.flatMap_append, List.flatMap_singleton, List.take_append, List.nodup_append']
      refine ⟨hinit, (hnodup b).take, ?_⟩
      by_cases hmem : b ∈ bs
      . rw [hlast hmem]
        apply List.disjoint_nil_right
      . intro a hbefore hb
        obtain ⟨b', hb', ha⟩ := List.mem_flatMap.mp (List.mem_of_mem_take hbefore)
        have hne : b' ≠ b := by
          rintro rfl
          exact hmem hb'
        exact hapart b' b hne ha (List.mem_of_mem_take hb)

end Distinct
end WeekMenu

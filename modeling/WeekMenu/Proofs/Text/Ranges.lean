import Mathlib
import WeekMenu.Text.Case

/-!
This module contains a check that two tables of ranges have no code point in common. It goes through
both tables once, so it can be evaluated for the tables of character data.
-/

namespace WeekMenu
namespace Text

theorem inRanges_iff {ranges : List (Nat × Nat)} {n : Nat} :
    inRanges ranges n = true ↔ ∃ r ∈ ranges, r.1 ≤ n ∧ n ≤ r.2 := by
  simp [inRanges]

def isIncreasing : List (Nat × Nat) → Bool
  | [] => true
  | r :: rest => r.1 ≤ r.2 && rest.head?.all (r.2 < ·.1) && isIncreasing rest

/--
Does every range of the first table lie in a gap of the second one? Ranges that end before the
current one need not be looked at again.
-/
def isApart : List (Nat × Nat) → List (Nat × Nat) → Bool
  | [], _ => true
  | r :: rest, others =>
    let others := others.dropWhile (·.2 < r.1)
    others.head?.all (r.2 < ·.1) && isApart rest others

theorem le_of_isIncreasing {ranges : List (Nat × Nat)} (h : isIncreasing ranges = true) :
    ∀ r ∈ ranges, r.1 ≤ r.2 := by
  induction ranges with
  | nil => simp
  | cons r rest ih =>
    simp only [isIncreasing, Bool.and_eq_true, decide_eq_true_eq] at h
    exact List.forall_mem_cons.mpr ⟨h.1.1, ih h.2⟩

theorem pairwise_of_isIncreasing {ranges : List (Nat × Nat)} (h : isIncreasing ranges = true) :
    ranges.Pairwise (·.2 < ·.1) := by
  induction ranges with
  | nil => exact List.Pairwise.nil
  | cons r rest ih =>
    simp only [isIncreasing, Bool.and_eq_true] at h
    have hrest := ih h.2
    refine List.Pairwise.cons ?_ hrest
    cases rest with
    | nil => simp
    | cons s rest =>
      have hs : r.2 < s.1 := by simpa using h.1.2
      have hle := le_of_isIncreasing h.2 s List.mem_cons_self
      intro t ht
      cases ht with
      | head => exact hs
      | tail _ ht =>
        have := List.rel_of_pairwise_cons hrest ht
        omega

theorem isIncreasing_dropWhile {ranges : List (Nat × Nat)} (h : isIncreasing ranges = true)
    (p : Nat × Nat → Bool) : isIncreasing (ranges.dropWhile p) = true := by
  induction ranges with
  | nil => rfl
  | cons r rest ih =>
    rw [List.dropWhile_cons]
    split
    . simp only [isIncreasing, Bool.and_eq_true] at h
      exact ih h.2
    . exact h

theorem not_inRanges_of_lt_head {ranges : List (Nat × Nat)} {n : Nat}
    (h : isIncreasing ranges = true) (hn : ∀ r ∈ ranges.head?, n < r.1) :
    inRanges ranges n = false := by
  rw [Bool.eq_false_iff, Ne, inRanges_iff]
  rintro ⟨r, hr, hle, _⟩
  cases ranges with
  | nil => cases hr
  | cons s rest =>
    have hs : n < s.1 := hn s rfl
    cases hr with
    | head => omega
    | tail _ hr =>
      have hlt := List.rel_of_pairwise_cons (pairwise_of_isIncreasing h) hr
      have := le_of_isIncreasing h s List.mem_cons_self
      omega

theorem inRanges_dropWhile {ranges : List (Nat × Nat)} {first n : Nat} (h : first ≤ n) :
    inRanges (ranges.dropWhile (·.2 < first)) n = inRanges ranges n := by
  induction ranges with
  | nil => rfl
  | cons r rest ih =>
    rw [List.dropWhile_cons]
    split
    . next hr =>
      have hlt : ¬n ≤ r.2 := by
        simp only [decide_eq_true_eq] at hr
        omega
      rw [ih]
      simp [inRanges, hlt]
    . rfl

theorem not_inRanges_of_isApart {ranges others : List (Nat × Nat)} {n : Nat}
    (hranges : isIncreasing ranges = true) (hothers : isIncreasing others = true)
    (h : isApart ranges others = true) (hn : inRanges ranges n = true) :
    inRanges others n = false := by
  induction ranges generalizing others with
  | nil => cases hn
  | cons r rest ih =>
    simp only [isApart, Bool.and_eq_true] at h
    have hothers' := isIncreasing_dropWhile hothers (·.2 < r.1)
    obtain ⟨s, hs, hle, hlast⟩ := inRanges_iff.mp hn
    -- either way `n` lies behind the ranges of `others` that the check skips
    cases hs with
    | head =>
      rw [← inRanges_dropWhile hle]
      apply not_inRanges_of_lt_head hothers'
      intro s hs
      have hlt : r.2 < s.1 := by
        rw [Option.mem_def] at hs
        simpa [hs] using h.1
      omega
    | tail _ hs =>
      have hlt := List.rel_of_pairwise_cons (pairwise_of_isIncreasing hranges) hs
      have hr := le_of_isIncreasing hranges r List.mem_cons_self
      have hle' : r.1 ≤ n := by omega
      rw [← inRanges_dropWhile hle']
      simp only [isIncreasing, Bool.and_eq_true] at hranges
      exact ih hranges.2 hothers' h.2 (inRanges_iff.mpr ⟨s, hs, hle, hlast⟩)

def areSeparate (ranges others : List (Nat × Nat)) : Bool :=
  isIncreasing ranges && isIncreasing others && isApart ranges others

theorem not_inRanges_of_areSeparate {ranges others : List (Nat × Nat)} {n : Nat}
    (h : areSeparate ranges others = true) (hn : inRanges ranges n = true) :
    inRanges others n = false := by
  simp only [areSeparate, Bool.and_eq_true] at h
  exact not_inRanges_of_isApart h.1.1 h.1.2 h.2 hn

end Text
end WeekMenu

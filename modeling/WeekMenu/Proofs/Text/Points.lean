import WeekMenu.Proofs.Text.Firm
import WeekMenu.Proofs.Text.Ranges
import WeekMenu.Text.Fold

/-!
This module contains facts about combining marks: a mark is no letter and has no lower case, and one
that is no accent stands for itself. So marks at the ends of a text keep out of its lower case.
-/

namespace WeekMenu
namespace Text

open Decompose

def markRanges : List (Nat × Nat) :=
  markClasses.map fun (first, last, _) => (first, last)

def letterRanges : List (List (Nat × Nat)) :=
  [latin, eastern, latinAdditional, greekExtended, signs].map (·.map fun (n, _) => (n, n))

def lowerRanges : List (Nat × Nat) :=
  lowerRuns.map fun (first, last, _, _) => (first, last)

def ideographRanges : List (Nat × Nat) :=
  ideographRuns.map fun (first, images) => (first, first + images.length - 1)

def pointRanges : List (Nat × Nat) :=
  markRanges.filter (0x36F < ·.1)

theorem areSeparate_markRanges : ∀ table ∈ [casedRanges, lowerRanges],
    areSeparate markRanges table = true := by
  decide +kernel

theorem areSeparate_pointRanges : ∀ table ∈ [(0xAC00, 0xD7A3)] :: ideographRanges :: letterRanges,
    areSeparate pointRanges table = true := by
  decide +kernel

theorem mark_le_accent_or_gt : ∀ r ∈ markRanges, r.2 ≤ 0x36F ∨ 0x36F < r.1 := by
  decide +kernel

theorem inRanges_markRanges {c : Char} (h : 0 < markClass c) :
    inRanges markRanges c.toNat = true := by
  unfold markClass at h
  dsimp only at h
  split at h
  . omega
  . split at h
    . next first last k hfind =>
      have hrange := List.find?_some hfind
      rw [inRanges_iff]
      refine ⟨(first, last), ?_, by simpa using hrange⟩
      exact List.mem_map.mpr ⟨_, List.mem_of_find?_eq_some hfind, rfl⟩
    . omega

theorem le_toNat_of_mark {c : Char} (h : 0 < markClass c) : 0x300 ≤ c.toNat := by
  unfold markClass at h
  dsimp only at h
  split at h
  . omega
  . omega

theorem isCased_of_mark {c : Char} (h : 0 < markClass c) : isCased c = false :=
  not_inRanges_of_areSeparate (areSeparate_markRanges casedRanges (by simp))
    (inRanges_markRanges h)

theorem lowerChar_of_mark {c : Char} (h : 0 < markClass c) : lowerChar c = c := by
  have hle := le_toNat_of_mark h
  have hapart := not_inRanges_of_areSeparate (areSeparate_markRanges lowerRanges (by simp))
    (inRanges_markRanges h)
  unfold lowerChar
  dsimp only
  rw [if_neg (by omega)]
  split
  . next first last step image hfind =>
    have hrange := List.find?_some hfind
    simp only [Bool.and_eq_true, decide_eq_true_eq] at hrange
    rw [Bool.eq_false_iff, Ne, inRanges_iff] at hapart
    refine absurd ⟨(first, last), ?_, hrange.1⟩ hapart
    exact List.mem_map.mpr ⟨_, List.mem_of_find?_eq_some hfind, rfl⟩
  . rfl

theorem lowerAt_of_mark {c : Char} (h : 0 < markClass c) (before after : List Char) :
    lowerAt before c after = [c] := by
  have hsigma : c ≠ 'Σ' := by
    rintro rfl
    exact absurd h (by decide +kernel)
  have hdot : c ≠ 'İ' := by
    rintro rfl
    exact absurd h (by decide +kernel)
  simp [lowerAt, hsigma, hdot, lowerChar_of_mark h]

theorem lowerBetween_of_marks {marks : List Char} (h : ∀ c ∈ marks, 0 < markClass c)
    (before after : List Char) : lowerBetween before marks after = marks := by
  induction marks generalizing before with
  | nil => rfl
  | cons c marks ih =>
    obtain ⟨hc, hmarks⟩ := List.forall_mem_cons.mp h
    rw [lowerBetween, lowerAt_of_mark hc, ih hmarks]
    rfl

theorem meetsCased_append_of_marks {marks : List Char} (h : ∀ c ∈ marks, 0 < markClass c)
    (cs : List Char) : meetsCased (cs ++ marks) = meetsCased cs := by
  induction cs with
  | nil =>
    induction marks with
    | nil => rfl
    | cons c marks ih =>
      obtain ⟨hc, hmarks⟩ := List.forall_mem_cons.mp h
      rw [List.nil_append, meetsCased_cons, isCased_of_mark hc]
      split
      . exact ih hmarks
      . rfl
  | cons c cs ih => rw [List.cons_append, meetsCased_cons, meetsCased_cons, ih]

theorem lowerBetween_of_marks_around {front back : List Char}
    (hfront : ∀ c ∈ front, 0 < markClass c) (hback : ∀ c ∈ back, 0 < markClass c)
    (cs : List Char) : lowerBetween front cs back = lowerChars cs := by
  rw [lowerChars_eq]
  apply lowerBetween_congr
  intro first c rest _
  unfold lowerAt
  rw [meetsCased_append_of_marks hfront, meetsCased_append_of_marks hback, List.append_nil,
    List.append_nil]

theorem lowerChars_append_marks {marks : List Char} (h : ∀ c ∈ marks, 0 < markClass c)
    (cs : List Char) : lowerChars (cs ++ marks) = lowerChars cs ++ marks := by
  rw [lowerChars_eq (cs ++ marks), lowerBetween_append, lowerBetween_of_marks h, List.append_nil,
    lowerBetween_of_marks_around (by simp) h]

theorem lowerChars_marks_append {marks : List Char} (h : ∀ c ∈ marks, 0 < markClass c)
    (cs : List Char) : lowerChars (marks ++ cs) = marks ++ lowerChars cs := by
  rw [lowerChars_eq (marks ++ cs), lowerBetween_append, lowerBetween_of_marks h, List.append_nil,
    lowerBetween_of_marks_around (by simpa using h) (by simp)]

/--
A point: a combining mark that is no accent, so that folding keeps it.
-/
structure IsPoint (c : Char) : Prop where
  mark : 0 < markClass c
  kept : isAccent c = false

theorem IsPoint.lt_toNat {c : Char} (h : IsPoint c) : 0x36F < c.toNat := by
  have hle := le_toNat_of_mark h.mark
  have hkept := h.kept
  unfold isAccent at hkept
  simp only [Bool.and_eq_false_iff, decide_eq_false_iff_not] at hkept
  omega

theorem IsPoint.inRanges_pointRanges {c : Char} (h : IsPoint c) :
    inRanges pointRanges c.toNat = true := by
  have hlt := h.lt_toNat
  rw [inRanges_iff]
  obtain ⟨r, hr, hle, hlast⟩ := inRanges_iff.mp (inRanges_markRanges h.mark)
  refine ⟨r, List.mem_filter.mpr ⟨hr, ?_⟩, hle, hlast⟩
  have := mark_le_accent_or_gt r hr
  simp only [decide_eq_true_eq]
  omega

theorem letter?_of_not_inRanges {n : Nat}
    (h : ∀ table ∈ letterRanges, inRanges table n = false) : letter? n = none := by
  have hlookup : ∀ table ∈ [latin, eastern, latinAdditional, greekExtended, signs],
      table.lookup n = none := by
    intro table htable
    rw [List.lookup_eq_none_iff]
    intro e he
    have hnot := h _ (List.mem_map_of_mem htable)
    rw [Bool.eq_false_iff, Ne, inRanges_iff] at hnot
    rw [bne_iff_ne]
    rintro rfl
    exact hnot ⟨(e.1, e.1), List.mem_map.mpr ⟨e, he, rfl⟩, le_refl _, le_refl _⟩
  simp only [List.forall_mem_cons] at hlookup
  obtain ⟨h1, h2, h3, h4, h5, _⟩ := hlookup
  simp [letter?, h1, h2, h3, h4, h5]

theorem ideograph?_of_not_inRanges {n : Nat} (h : inRanges ideographRanges n = false) :
    ideograph? n = none := by
  unfold ideograph?
  rw [List.findSome?_eq_none_iff]
  rintro ⟨first, images⟩ hrun
  dsimp only
  split
  . next hle =>
    rw [List.getElem?_eq_none_iff]
    by_contra hlt
    rw [Bool.eq_false_iff, Ne, inRanges_iff] at h
    refine h ⟨(first, first + images.length - 1), ?_, hle, ?_⟩
    . exact List.mem_map.mpr ⟨_, hrun, rfl⟩
    . dsimp only
      omega
  . rfl

theorem IsPoint.codePoint_eq {c : Char} (h : IsPoint c) : codePoint c.toNat = [c.toNat] := by
  have hlt := h.lt_toNat
  have hnot : ∀ table ∈ [(0xAC00, 0xD7A3)] :: ideographRanges :: letterRanges,
      inRanges table c.toNat = false := by
    intro table htable
    exact not_inRanges_of_areSeparate (areSeparate_pointRanges table htable) h.inRanges_pointRanges
  simp only [List.forall_mem_cons] at hnot
  obtain ⟨hsyllable, hideograph, hletter⟩ := hnot
  unfold codePoint
  rw [if_neg (by omega), if_neg (by simpa [inRanges] using hsyllable),
    letter?_of_not_inRanges hletter, ideograph?_of_not_inRanges hideograph]
  rfl

end Text
end WeekMenu

import Mathlib.Data.List.Basic

/-!
This module contains facts about the first occurrence of a mark in a text.
-/

namespace WeekMenu
namespace Text

def IsMark (opening : Char) (mark : List Char) : Prop :=
  ∃ name, mark = opening :: name ∧ opening ∉ name

def StartsIn (mark first second : List Char) : Prop :=
  ∃ before after, first ++ second = before ++ (mark ++ after) ∧ before.length < first.length

section StartsIn

variable {opening : Char} {mark other first second before after : List Char}

theorem not_startsIn_nil (mark second : List Char) : ¬StartsIn mark [] second := by
  rintro ⟨_, _, _, hlt⟩
  exact Nat.not_lt_zero _ hlt

theorem startsIn_cons {c : Char} :
    StartsIn mark (c :: first) second ↔
      mark <+: c :: (first ++ second) ∨ StartsIn mark first second := by
  constructor
  . rintro ⟨before, after, hsplit, hlt⟩
    cases before with
    | nil => exact Or.inl ⟨after, hsplit.symm⟩
    | cons b before =>
      obtain ⟨_, hrest⟩ := List.cons.inj hsplit
      exact Or.inr ⟨before, after, hrest, Nat.lt_of_succ_lt_succ hlt⟩
  . rintro (⟨after, hsplit⟩ | ⟨before, after, hsplit, hlt⟩)
    . exact ⟨[], after, hsplit.symm, Nat.succ_pos _⟩
    . refine ⟨c :: before, after, ?_, Nat.succ_lt_succ hlt⟩
      rw [List.cons_append, hsplit]
      rfl

theorem infix_append_iff :
    mark <:+: first ++ second ↔ StartsIn mark first second ∨ mark <:+: second := by
  induction first with
  | nil => simp [not_startsIn_nil]
  | cons c first ih =>
    rw [List.cons_append, List.infix_cons_iff, ih, startsIn_cons, or_assoc]

theorem infix_of_startsIn_nil (h : StartsIn mark first []) : mark <:+: first := by
  simpa using infix_append_iff.mpr (Or.inl h)

theorem IsMark.not_mem_of_suffix (h : IsMark opening mark) (hfirst : first ≠ [])
    (hmark : mark = first ++ second) : opening ∉ second := by
  obtain ⟨name, hname, hopening⟩ := h
  intro hmem
  cases first with
  | nil => contradiction
  | cons c first =>
    rw [hname] at hmark
    obtain ⟨_, rfl⟩ := List.cons.inj hmark
    apply hopening
    exact List.mem_append_right first hmem

theorem IsMark.ne_nil (h : IsMark opening mark) : mark ≠ [] := by
  obtain ⟨_, rfl, _⟩ := h
  apply List.cons_ne_nil

theorem IsMark.head?_append (h : IsMark opening mark) (rest : List Char) :
    (mark ++ rest).head? = some opening := by
  obtain ⟨_, rfl, _⟩ := h
  rfl

theorem IsMark.exists_start (h : IsMark opening mark) (hstarts : StartsIn mark first second) :
    ∃ before start after, first = before ++ start ∧ start ≠ [] ∧
      start ++ second = mark ++ after ∧ ¬mark <:+: before := by
  induction first with
  | nil => exact absurd hstarts (not_startsIn_nil mark second)
  | cons c first ih =>
    by_cases hprefix : mark <+: c :: (first ++ second)
    . obtain ⟨after, hsplit⟩ := hprefix
      refine ⟨[], c :: first, after, rfl, List.cons_ne_nil c first, hsplit.symm, ?_⟩
      rw [List.infix_nil]
      exact h.ne_nil
    . obtain ⟨before, start, after, rfl, hstart, hsplit, hbefore⟩ :=
        ih ((startsIn_cons.mp hstarts).resolve_left hprefix)
      refine ⟨c :: before, start, after, rfl, hstart, hsplit, ?_⟩
      rw [List.infix_cons_iff, not_or]
      refine ⟨?_, hbefore⟩
      intro hbegins
      apply hprefix
      rw [List.append_assoc]
      exact hbegins.trans (List.prefix_append (c :: before) (start ++ second))

theorem IsMark.exists_first {cs : List Char} (h : IsMark opening mark) (hmark : mark <:+: cs) :
    ∃ before after, cs = before ++ (mark ++ after) ∧ ¬mark <:+: before := by
  have hstarts : StartsIn mark cs [] := by
    rw [← List.append_nil cs, infix_append_iff, List.infix_nil] at hmark
    exact hmark.resolve_right h.ne_nil
  obtain ⟨before, start, after, rfl, _, hsplit, hbefore⟩ := h.exists_start hstarts
  rw [List.append_nil] at hsplit
  exact ⟨before, after, by rw [hsplit], hbefore⟩

theorem IsMark.infix_of_startsIn (h : IsMark opening mark) (hsecond : second.head? = some opening)
    (hstarts : StartsIn mark first second) : mark <:+: first := by
  obtain ⟨before, start, rest, rfl, hstart, hsplit, _⟩ := h.exists_start hstarts
  obtain ⟨tail, hmark, hrest⟩ | ⟨tail, rfl, _⟩ := List.append_eq_append_iff.mp hsplit
  . cases tail with
    | nil =>
      rw [List.append_nil] at hmark
      rw [hmark]
      exact List.infix_append_right
    | cons c tail =>
      have hhead : (c :: tail).head? = some opening := by
        rw [← hsecond, hrest]
        rfl
      exact absurd (List.mem_of_mem_head? hhead) (h.not_mem_of_suffix hstart hmark)
  . apply List.infix_append'

theorem IsMark.infix_of_startsIn_append (h : IsMark opening mark) (hother : IsMark opening other)
    (hstarts : StartsIn mark first (other ++ after)) : mark <:+: first :=
  h.infix_of_startsIn (hother.head?_append after) hstarts

theorem IsMark.not_startsIn_of_not_mem (h : IsMark opening mark) (hopening : opening ∉ first)
    (second : List Char) : ¬StartsIn mark first second := by
  intro hstarts
  obtain ⟨before, start, after, rfl, hstart, hsplit, _⟩ := h.exists_start hstarts
  have hhead := h.head?_append after
  rw [← hsplit, List.head?_append_of_ne_nil start hstart] at hhead
  apply hopening
  exact List.mem_append_right before (List.mem_of_mem_head? hhead)

theorem IsMark.eq_of_first {before' after' : List Char} (h : IsMark opening mark)
    (hbefore : ¬mark <:+: before) (hbefore' : ¬mark <:+: before')
    (hsplit : before ++ (mark ++ after) = before' ++ (mark ++ after')) :
    before = before' ∧ after = after' := by
  rcases Nat.lt_trichotomy before.length before'.length with hlt | hlength | hlt
  . exact absurd (h.infix_of_startsIn_append h ⟨before, after, hsplit.symm, hlt⟩) hbefore'
  . obtain ⟨rfl, hrest⟩ := List.append_inj hsplit hlength
    exact ⟨rfl, List.append_cancel_left hrest⟩
  . exact absurd (h.infix_of_startsIn_append h ⟨before', after', hsplit, hlt⟩) hbefore

end StartsIn

end Text
end WeekMenu

import WeekMenu.Catalog
import WeekMenu.Proofs.Text.Case

/-!
This module contains facts about the meal that a query singles out of a catalog.
-/

namespace WeekMenu

namespace Text

theorem occursIn_iff_infix {fragment cs : List Char} :
    occursIn fragment cs = true ↔ fragment <:+: cs := by
  induction cs with
  | nil => simp [occursIn]
  | cons c cs ih =>
    rw [occursIn, Bool.or_eq_true, ih, List.isPrefixOf_iff_prefix, List.infix_cons_iff]

end Text

namespace Catalog

theorem mentions_iff {query : String} {m : Meal} :
    mentions query m = true ↔ (Text.lower query).toList <:+: (Text.lower m.name).toList :=
  Text.occursIn_iff_infix

theorem lookup_name_of_mem {c : Catalog} {m : Meal} (h : m ∈ c.meals) :
    ∃ k ∈ c.meals, c.lookup m.name = .unique k ∧ Text.lower k.name = Text.lower m.name := by
  cases hfind : c.meals.find? (names m.name) with
  | none =>
    rw [List.find?_eq_none] at hfind
    exact absurd (by simp [names]) (hfind m h)
  | some k =>
    refine ⟨k, List.mem_of_find?_eq_some hfind, ?_, ?_⟩
    . unfold lookup
      rw [hfind]
    . simpa [names] using List.find?_some hfind

theorem find?_of_lookup {c : Catalog} {query : String} {m : Meal}
    (h : c.lookup query = .unique m) :
    c.meals.find? (names query) = some m ∨ c.meals.find? (mentions query) = some m := by
  unfold lookup at h
  split at h
  . next hfind =>
    cases h
    exact Or.inl hfind
  . split at h
    . cases h
    . next hfilter =>
      cases h
      right
      rw [← List.head?_filter, hfilter]
      rfl
    . cases h

theorem mem_and_matches_of_lookup {c : Catalog} {query : String} {m : Meal}
    (h : c.lookup query = .unique m) :
    m ∈ c.meals ∧ (names query m = true ∨ mentions query m = true) := by
  cases find?_of_lookup h with
  | inl hfind => exact ⟨List.mem_of_find?_eq_some hfind, Or.inl (List.find?_some hfind)⟩
  | inr hfind => exact ⟨List.mem_of_find?_eq_some hfind, Or.inr (List.find?_some hfind)⟩

theorem named?_eq_some_iff {c : Catalog} {name : String} {m : Meal} :
    c.named? name = some m
      ↔
    m.name = name ∧ ∃ first rest, c.meals = first ++ m :: rest ∧ ∀ k ∈ first, k.name ≠ name := by
  unfold named?
  rw [List.find?_eq_some_iff_append]
  simp

theorem named?_of_find? {c : Catalog} {p : Meal → Bool} {m : Meal}
    (hp : ∀ k : Meal, k.name = m.name → p k = p m) (h : c.meals.find? p = some m) :
    c.named? m.name = some m := by
  rw [List.find?_eq_some_iff_append] at h
  obtain ⟨hm, first, rest, hmeals, hfirst⟩ := h
  rw [named?_eq_some_iff]
  refine ⟨rfl, first, rest, hmeals, ?_⟩
  intro k hk hname
  have hk := hfirst k hk
  rw [hp k hname, hm] at hk
  cases hk

theorem named?_of_lookup {c : Catalog} {query : String} {m : Meal}
    (h : c.lookup query = .unique m) : c.named? m.name = some m := by
  cases find?_of_lookup h with
  | inl hfind =>
    apply named?_of_find? _ hfind
    intro k hname
    unfold names
    rw [hname]
  | inr hfind =>
    apply named?_of_find? _ hfind
    intro k hname
    unfold mentions
    rw [hname]

theorem name_ne_empty_of_lookup {c : Catalog} {query : String} {m : Meal} (hq : query ≠ "")
    (h : c.lookup query = .unique m) : m.name ≠ "" := by
  intro hname
  have hlower := Text.lower_ne_empty hq
  have hempty : Text.lower m.name = "" := by
    rw [hname]
    rfl
  cases (mem_and_matches_of_lookup h).2 with
  | inl hm =>
    unfold names at hm
    rw [hempty] at hm
    simp_all
  | inr hm =>
    rw [mentions_iff, hempty, String.toList_empty, List.infix_nil] at hm
    simp_all

end Catalog
end WeekMenu

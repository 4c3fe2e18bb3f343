import WeekMenu.Proofs.Catalog

/-!
This module contains what a lookup answers: how its answer goes together with the meals that a
search for the same words lists, and when it depends on the order in which the meals are listed.
-/

namespace WeekMenu
namespace Catalog

variable {c c' : Catalog} {query : String} {m : Meal}

def Unnamed (c : Catalog) (query : String) : Prop :=
  ∀ m ∈ c.meals, Text.lower m.name ≠ Text.lower query

def FirstNamed (c : Catalog) (query : String) (m : Meal) : Prop :=
  Text.lower m.name = Text.lower query ∧ ∃ before after, c.meals = before ++ m :: after ∧
    ∀ k ∈ before, Text.lower k.name ≠ Text.lower query

theorem find?_names_eq_none_iff : c.meals.find? (names query) = none ↔ c.Unnamed query := by
  unfold Unnamed
  simp [names]

theorem find?_names_eq_some_iff :
    c.meals.find? (names query) = some m ↔ c.FirstNamed query m := by
  unfold FirstNamed
  rw [List.find?_eq_some_iff_append]
  simp [names]

theorem unnamed_or_firstNamed (c : Catalog) (query : String) :
    c.Unnamed query ∨ ∃ m, c.FirstNamed query m := by
  cases hfind : c.meals.find? (names query) with
  | none => exact Or.inl (find?_names_eq_none_iff.mp hfind)
  | some m => exact Or.inr ⟨m, find?_names_eq_some_iff.mp hfind⟩

theorem mentions_of_names (h : names query m = true) : mentions query m = true := by
  unfold names at h
  rw [beq_iff_eq] at h
  rw [mentions_iff, h]

theorem FirstNamed.mem_search (h : c.FirstNamed query m) : m ∈ c.search query := by
  rw [← find?_names_eq_some_iff] at h
  unfold search
  rw [List.mem_filter]
  exact ⟨List.mem_of_find?_eq_some h, mentions_of_names (List.find?_some h)⟩

theorem FirstNamed.not_unnamed (h : c.FirstNamed query m) : ¬c.Unnamed query := by
  rw [← find?_names_eq_none_iff, find?_names_eq_some_iff.mpr h]
  simp

theorem FirstNamed.eq {k : Meal} (h : c.FirstNamed query m) (hk : c.FirstNamed query k) :
    m = k := by
  rw [← find?_names_eq_some_iff] at h hk
  rw [h] at hk
  exact Option.some.inj hk

theorem FirstNamed.lookup_eq (h : c.FirstNamed query m) : c.lookup query = .unique m := by
  unfold lookup
  rw [find?_names_eq_some_iff.mpr h]

theorem Unnamed.lookup_eq (h : c.Unnamed query) :
    c.lookup query =
      match c.search query with
      | [] => .notFound
      | [m] => .unique m
      | ms => .ambiguous ms.length := by
  unfold lookup
  rw [find?_names_eq_none_iff.mpr h]
  rfl

theorem lookup_eq_notFound_iff : c.lookup query = .notFound ↔ c.search query = [] := by
  rcases unnamed_or_firstNamed c query with hnone | ⟨k, hk⟩
  . rw [hnone.lookup_eq]
    cases c.search query with
    | nil => simp
    | cons m ms => cases ms <;> simp
  . have hs := List.ne_nil_of_mem hk.mem_search
    simp [hk.lookup_eq, hs]

theorem lookup_eq_ambiguous_iff {n : Nat} :
    c.lookup query = .ambiguous n ↔ c.Unnamed query ∧ n = (c.search query).length ∧ 2 ≤ n := by
  rcases unnamed_or_firstNamed c query with hnone | ⟨k, hk⟩
  . rw [hnone.lookup_eq]
    cases c.search query with
    | nil =>
      simp only [List.length_nil, reduceCtorEq, false_iff]
      omega
    | cons m ms =>
      cases ms with
      | nil =>
        simp only [List.length_singleton, reduceCtorEq, false_iff]
        omega
      | cons k ms =>
        simp only [Match.ambiguous.injEq, List.length_cons, hnone, true_and]
        omega
  . simp [hk.lookup_eq, hk.not_unnamed]

theorem lookup_eq_unique_iff :
    c.lookup query = .unique m ↔
      c.FirstNamed query m ∨ (c.Unnamed query ∧ c.search query = [m]) := by
  rcases unnamed_or_firstNamed c query with hnone | ⟨k, hk⟩
  . have hfirst : ¬c.FirstNamed query m := fun h => h.not_unnamed hnone
    rw [hnone.lookup_eq]
    cases c.search query with
    | nil => simp [hfirst]
    | cons k ms => cases ms <;> simp [hfirst, hnone]
  . rw [hk.lookup_eq]
    constructor
    . intro h
      cases h
      exact Or.inl hk
    . rintro (hm | ⟨hnone, _⟩)
      . rw [hk.eq hm]
      . exact absurd hnone hk.not_unnamed

theorem lookup_search (c : Catalog) (query : String) :
    (c.lookup query = .notFound ↔ c.search query = []) ∧
    (∀ n, c.lookup query = .ambiguous n ↔
      c.Unnamed query ∧ n = (c.search query).length ∧ 2 ≤ n) ∧
    (∀ m, c.lookup query = .unique m ↔
      c.FirstNamed query m ∨ (c.Unnamed query ∧ c.search query = [m])) ∧
    (∀ m, c.lookup query = .unique m → m ∈ c.search query) ∧
    (c.search query = [] ∨ (c.Unnamed query ∧ 2 ≤ (c.search query).length) ∨
      ∃ m, c.FirstNamed query m ∨ (c.Unnamed query ∧ c.search query = [m])) := by
  refine ⟨lookup_eq_notFound_iff, fun n => lookup_eq_ambiguous_iff,
    fun m => lookup_eq_unique_iff, ?_, ?_⟩
  . intro m hm
    rcases lookup_eq_unique_iff.mp hm with hfirst | ⟨_, hs⟩
    . exact hfirst.mem_search
    . rw [hs]
      exact List.mem_singleton_self m
  . cases hl : c.lookup query with
    | notFound => exact Or.inl (lookup_eq_notFound_iff.mp hl)
    | ambiguous n =>
      obtain ⟨hnone, rfl, hn⟩ := lookup_eq_ambiguous_iff.mp hl
      exact Or.inr (Or.inl ⟨hnone, hn⟩)
    | unique m => exact Or.inr (Or.inr ⟨m, lookup_eq_unique_iff.mp hl⟩)

def NamesOne (c : Catalog) (query : String) : Prop :=
  ∀ m ∈ c.meals, ∀ k ∈ c.meals, Text.lower m.name = Text.lower query →
    Text.lower k.name = Text.lower query → m = k

theorem unnamed_congr (h : c'.meals.Perm c.meals) : c'.Unnamed query ↔ c.Unnamed query := by
  unfold Unnamed
  simp only [h.mem_iff]

theorem FirstNamed.mem (h : c.FirstNamed query m) : m ∈ c.meals := by
  obtain ⟨_, before, after, hmeals, _⟩ := h
  simp [hmeals]

theorem lookup_perm_of_unnamed (hnone : c.Unnamed query) (h : c'.meals.Perm c.meals) :
    c'.lookup query = c.lookup query := by
  have hsearch : (c'.search query).Perm (c.search query) := h.filter _
  rw [hnone.lookup_eq, ((unnamed_congr h).mpr hnone).lookup_eq]
  cases hs : c.search query with
  | nil =>
    rw [hs] at hsearch
    rw [hsearch.eq_nil]
  | cons m ms =>
    rw [hs] at hsearch
    cases ms with
    | nil => rw [hsearch.eq_singleton]
    | cons k ms =>
      have hlength := hsearch.length_eq
      cases hs' : c'.search query with
      | nil => simp [hs'] at hlength
      | cons m' ms' =>
        cases ms' with
        | nil => simp [hs'] at hlength
        | cons k' ms' => simpa [hs'] using hlength

theorem lookup_perm_of_namesOne (hone : c.NamesOne query) (h : c'.meals.Perm c.meals) :
    c'.lookup query = c.lookup query := by
  rcases unnamed_or_firstNamed c query with hnone | ⟨m, hm⟩
  . exact lookup_perm_of_unnamed hnone h
  . rcases unnamed_or_firstNamed c' query with hnone' | ⟨k, hk⟩
    . exact absurd ((unnamed_congr h).mp hnone') hm.not_unnamed
    . have heq : k = m := hone k (h.mem_iff.mp hk.mem) m hm.mem hk.1 hm.1
      rw [hm.lookup_eq, hk.lookup_eq, heq]

theorem firstNamed_cons (hm : Text.lower m.name = Text.lower query) (ms : List Meal) :
    FirstNamed ⟨m :: ms⟩ query m :=
  ⟨hm, [], ms, rfl, by simp⟩

theorem lookup_perm_iff (c : Catalog) (query : String) :
    (∀ c' : Catalog, c'.meals.Perm c.meals → c'.lookup query = c.lookup query) ↔
      c.NamesOne query := by
  constructor
  . intro h m hm k hk hmname hkname
    have hfirst : ∀ j ∈ c.meals, Text.lower j.name = Text.lower query →
        c.lookup query = .unique j := by
      intro j hj hjname
      rw [← h ⟨j :: c.meals.erase j⟩ (List.perm_cons_erase hj).symm]
      exact (firstNamed_cons hjname _).lookup_eq
    have heq := (hfirst m hm hmname).symm.trans (hfirst k hk hkname)
    exact Match.unique.inj heq
  . intro hone c' h
    exact lookup_perm_of_namesOne hone h

theorem lookup_picks_first :
    let ham : Meal := ⟨"Ham", "ham.png"⟩
    let smoked : Meal := ⟨"HAM", "smoked.png"⟩
    [ham, smoked].Perm [smoked, ham] ∧ ham ≠ smoked ∧
    lookup ⟨[ham, smoked]⟩ "ham" = .unique ham ∧
    lookup ⟨[smoked, ham]⟩ "ham" = .unique smoked := by
  decide +kernel

end Catalog
end WeekMenu

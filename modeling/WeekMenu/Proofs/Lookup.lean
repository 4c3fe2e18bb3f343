/-!
This module contains facts about lists of entries in which a value is looked up by its key. An entry
that is put into such a list replaces the one with the same key.
-/

namespace WeekMenu

section Lookup

variable {α β : Type} [BEq α] [LawfulBEq α] {key : α}

theorem lookup_filter_ne {other : α} (h : key ≠ other) (entries : List (α × β)) :
    (entries.filter (·.1 != other)).lookup key = entries.lookup key := by
  induction entries with
  | nil => rfl
  | cons entry entries ih =>
    obtain ⟨first, text⟩ := entry
    rw [List.filter_cons, List.lookup_cons]
    split
    . rw [List.lookup_cons, ih]
    . next hfirst =>
      have heq : first = other := by simpa using hfirst
      rw [ih, heq, beq_eq_false_iff_ne.mpr h]

def replaceEntry (entries : List (α × β)) (entry : α × β) : List (α × β) :=
  entry :: entries.filter (·.1 != entry.1)

theorem lookup_replaceEntry_self (entries : List (α × β)) (value : β) :
    (replaceEntry entries (key, value)).lookup key = some value :=
  List.lookup_cons_self

theorem lookup_replaceEntry_ne {entry : α × β} (h : key ≠ entry.1) (entries : List (α × β)) :
    (replaceEntry entries entry).lookup key = entries.lookup key := by
  unfold replaceEntry
  rw [List.lookup_cons, beq_eq_false_iff_ne.mpr h, lookup_filter_ne h]

theorem lookup_foldl_replaceEntry (entries puts : List (α × β)) (key : α) :
    (∃ value, (key, value) ∈ puts ∧ (puts.foldl replaceEntry entries).lookup key = some value) ∨
    ((∀ value, (key, value) ∉ puts) ∧
      (puts.foldl replaceEntry entries).lookup key = entries.lookup key) := by
  induction puts generalizing entries with
  | nil => exact Or.inr ⟨by simp, rfl⟩
  | cons put puts ih =>
    obtain ⟨value, hmem, hvalue⟩ | ⟨hnone, hkept⟩ := ih (replaceEntry entries put)
    . exact Or.inl ⟨value, List.mem_cons_of_mem _ hmem, hvalue⟩
    . rw [List.foldl_cons, hkept]
      by_cases hkey : key = put.1
      . subst hkey
        exact Or.inl ⟨put.2, List.mem_cons_self, lookup_replaceEntry_self entries put.2⟩
      . refine Or.inr ⟨?_, lookup_replaceEntry_ne hkey entries⟩
        intro value hmem
        obtain rfl | hmem := List.mem_cons.mp hmem
        . exact hkey rfl
        . exact hnone value hmem

theorem lookup_puts_iff {puts : List (α × β)} {value : β}
    (h : ∀ value', (key, value) ∈ puts → (key, value') ∈ puts → value' = value) :
    (puts.foldl replaceEntry []).lookup key = some value ↔ (key, value) ∈ puts := by
  obtain ⟨value', hmem, hvalue⟩ | ⟨hnone, hkept⟩ := lookup_foldl_replaceEntry [] puts key
  . rw [hvalue, Option.some_inj]
    constructor
    . rintro rfl
      exact hmem
    . intro hput
      exact h value' hput hmem
  . rw [hkept]
    constructor
    . nofun
    . intro hput
      exact absurd hput (hnone value)

end Lookup
end WeekMenu

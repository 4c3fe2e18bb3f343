import WeekMenu.Days
import WeekMenu.Proofs.Distinct

/-!
This module contains the order in which the tokens of a day table are offered: which aliases are
offered at all, that none of them is lost or repeated when the preferred ones move to the front, and
what is offered where no alias stands for a day.
-/

namespace WeekMenu
namespace DayTable

variable {t : DayTable} {token : String}

theorem toFront_perm (tokens rest : List String) : (toFront tokens rest).Perm rest := by
  induction tokens generalizing rest with
  | nil => exact List.Perm.refl rest
  | cons token tokens ih =>
    unfold toFront
    split
    . next hmem =>
      rw [List.contains_iff_mem] at hmem
      exact ((ih (rest.erase token)).cons token).trans (List.perm_cons_erase hmem).symm
    . exact ih rest

theorem toFront_eq {tokens rest : List String} (htokens : tokens.Nodup) (hrest : rest.Nodup) :
    toFront tokens rest
      =
    tokens.filter rest.contains ++ rest.filter (!tokens.contains ·) := by
  induction tokens generalizing rest with
  | nil => simp [toFront]
  | cons token tokens ih =>
    obtain ⟨htoken, htokens⟩ := List.nodup_cons.mp htokens
    have hothers : rest.filter (!(token :: tokens).contains ·)
        = (rest.erase token).filter (!tokens.contains ·) := by
      rw [hrest.erase_eq_filter, List.filter_filter]
      apply List.filter_congr
      intro other _
      rw [List.contains_cons, Bool.not_or, Bool.and_comm]
      rfl
    have hmoved : tokens.filter rest.contains = tokens.filter (rest.erase token).contains := by
      apply List.filter_congr
      intro other hother
      have hne : other ≠ token := by
        rintro rfl
        exact htoken hother
      rw [Bool.eq_iff_iff, List.contains_iff_mem, List.contains_iff_mem, List.mem_erase_of_ne hne]
    unfold toFront
    rw [hothers]
    split
    . next hmem =>
      rw [ih htokens (hrest.erase token), List.filter_cons_of_pos hmem, hmoved, List.cons_append]
    . next hmem =>
      have herase : rest.erase token = rest := by
        apply List.erase_of_not_mem
        simpa using hmem
      rw [ih htokens hrest, List.filter_cons_of_neg hmem, herase]

def firstLive (t : DayTable) (token : String) : Nat :=
  t.aliases.findIdx fun entry => entry.1 == token && t.lowerLabels.contains entry.2

structure Live (t : DayTable) (tokens : List String) : Prop where
  nodup : tokens.Nodup
  mem_iff : ∀ token, token ∈ tokens ↔ ∃ label ∈ t.lowerLabels, (token, label) ∈ t.aliases
  order : tokens.Pairwise fun a b => t.firstLive a < t.firstLive b

theorem mem_liveTokens_iff :
    token ∈ t.liveTokens ↔ ∃ label ∈ t.lowerLabels, (token, label) ∈ t.aliases := by
  unfold liveTokens
  rw [List.mem_eraseDups]
  simp [and_comm]

theorem findIdx_lt_of_idxOf_lt (p : String × String → Bool) (entries : List (String × String))
    {a b : String}
    (h : ((entries.filter p).map (·.1)).idxOf a < ((entries.filter p).map (·.1)).idxOf b) :
    (entries.findIdx fun e => e.1 == a && p e) < entries.findIdx fun e => e.1 == b && p e := by
  induction entries with
  | nil => simp at h
  | cons e entries ih =>
    rw [List.findIdx_cons, List.findIdx_cons]
    cases hp : p e with
    | false =>
      rw [List.filter_cons_of_neg (by simp [hp])] at h
      simpa [hp] using ih h
    | true =>
      rw [List.filter_cons_of_pos hp, List.map_cons, List.idxOf_cons, List.idxOf_cons] at h
      cases hb : e.1 == b with
      | true => simp [hb] at h
      | false =>
        cases ha : e.1 == a with
        | true => simp
        | false =>
          simp only [ha, hb, cond_false] at h
          simpa using ih (Nat.lt_of_succ_lt_succ h)

theorem live_liveTokens (t : DayTable) : t.Live t.liveTokens where
  nodup := Distinct.nodup_eraseDups _
  mem_iff _ := mem_liveTokens_iff
  order := by
    apply (Distinct.pairwise_idxOf_eraseDups _).imp
    intro a b hlt
    exact findIdx_lt_of_idxOf_lt _ t.aliases hlt

theorem Live.eq_liveTokens {tokens : List String} (h : t.Live tokens) : tokens = t.liveTokens := by
  have hperm : tokens.Perm t.liveTokens := by
    rw [List.perm_ext_iff_of_nodup h.nodup (live_liveTokens t).nodup]
    intro token
    rw [h.mem_iff, mem_liveTokens_iff]
  apply hperm.eq_of_pairwise _ h.order (live_liveTokens t).order
  intro a b _ _ hab hba
  exact absurd hab (Nat.lt_asymm hba)

theorem toFront_eq_nil_iff {tokens rest : List String} : toFront tokens rest = [] ↔ rest = [] := by
  constructor
  . intro h
    have hperm := toFront_perm tokens rest
    rw [h] at hperm
    exact hperm.nil_eq.symm
  . rintro rfl
    exact (toFront_perm tokens []).eq_nil

theorem orderedTokens_of_live (h : t.liveTokens ≠ []) :
    t.orderedTokens = toFront preferredTokens t.liveTokens := by
  unfold orderedTokens
  dsimp only
  rw [if_neg]
  rwa [List.isEmpty_iff, toFront_eq_nil_iff]

theorem orderedTokens_of_not_live (h : t.liveTokens = []) :
    t.orderedTokens = t.lowerLabels.eraseDups := by
  unfold orderedTokens
  dsimp only
  rw [if_pos]
  rwa [List.isEmpty_iff, toFront_eq_nil_iff]

theorem mem_orderedTokens_iff :
    token ∈ t.orderedTokens ↔
      token ∈ t.liveTokens ∨ (t.liveTokens = [] ∧ token ∈ t.lowerLabels) := by
  by_cases hlive : t.liveTokens = []
  . rw [orderedTokens_of_not_live hlive, List.mem_eraseDups]
    simp [hlive]
  . rw [orderedTokens_of_live hlive, (toFront_perm _ _).mem_iff]
    simp [hlive]

theorem nodup_orderedTokens (t : DayTable) : t.orderedTokens.Nodup := by
  by_cases hlive : t.liveTokens = []
  . rw [orderedTokens_of_not_live hlive]
    apply Distinct.nodup_eraseDups
  . rw [orderedTokens_of_live hlive, (toFront_perm _ _).nodup_iff]
    exact (live_liveTokens t).nodup

theorem orderedTokens_live (t : DayTable) :
    ∃ live, t.Live live ∧ (∀ tokens, t.Live tokens → tokens = live) ∧
      (live ≠ [] →
        t.orderedTokens.Perm live ∧ t.orderedTokens.Nodup ∧
        t.orderedTokens =
          preferredTokens.filter live.contains ++ live.filter (!preferredTokens.contains ·)) ∧
      (live = [] →
        t.orderedTokens.Nodup ∧ (∀ token, token ∈ t.orderedTokens ↔ token ∈ t.lowerLabels) ∧
        t.orderedTokens.Pairwise fun a b => t.lowerLabels.idxOf a < t.lowerLabels.idxOf b) := by
  refine ⟨t.liveTokens, live_liveTokens t, fun _ h => h.eq_liveTokens, ?_, ?_⟩
  . intro hlive
    refine ⟨?_, nodup_orderedTokens t, ?_⟩
    . rw [orderedTokens_of_live hlive]
      apply toFront_perm
    . rw [orderedTokens_of_live hlive]
      exact toFront_eq (by decide) (live_liveTokens t).nodup
  . intro hlive
    refine ⟨nodup_orderedTokens t, ?_, ?_⟩
    . intro token
      rw [orderedTokens_of_not_live hlive, List.mem_eraseDups]
    . rw [orderedTokens_of_not_live hlive]
      apply Distinct.pairwise_idxOf_eraseDups

end DayTable
end WeekMenu

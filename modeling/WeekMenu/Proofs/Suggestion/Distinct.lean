import WeekMenu.Proofs.Days.Order
import WeekMenu.Proofs.Text.Blank
import WeekMenu.Suggestion

/-!
This module contains when the suggestions for the head of a command are distinct. They always are
where short day tokens are completed. Where the labels are completed instead, a label that two days
share is completed twice.
-/

namespace WeekMenu
namespace Suggestion

namespace Completion

def tails : List String :=
  ["-u-s ", "-u-t ", "-u-clear", "-l-s ", "-l-t ", "-l-clear"]

theorem map_text_ofToken (token : String) :
    (ofToken token).map text = tails.map (token ++ ·) := by
  simp [ofToken, Zone.all, text, Command.head, Zone.token, tails, String.append_assoc]

theorem toList_of_mem_tails {tail : String} (h : tail ∈ tails) :
    ∃ zone action, tail.toList = ['-', zone, '-'] ++ action ∧ zone ≠ '-' ∧ '-' ∉ action := by
  simp only [tails, List.mem_cons, List.not_mem_nil, or_false] at h
  rcases h with rfl | rfl | rfl | rfl | rfl | rfl
  all_goals exact ⟨_, _, rfl, by decide, by decide⟩

theorem eq_of_append_tail_eq {token token' tail tail' : String} (htail : tail ∈ tails)
    (htail' : tail' ∈ tails) (h : token ++ tail = token' ++ tail') : token = token' := by
  obtain ⟨zone, action, heq, hzone, haction⟩ := toList_of_mem_tails htail
  obtain ⟨zone', action', heq', hzone', haction'⟩ := toList_of_mem_tails htail'
  have hlist : (token.toList ++ ['-', zone]) ++ '-' :: action
      = (token'.toList ++ ['-', zone']) ++ '-' :: action' := by
    have := congrArg String.toList h
    rw [String.toList_append, String.toList_append, heq, heq'] at this
    simpa using this
  obtain ⟨hhead, _⟩ := Text.eq_of_append_sep_eq haction haction' hlist
  obtain ⟨htoken, _⟩ := Text.eq_of_append_sep_eq (by simpa using hzone.symm)
    (by simpa using hzone'.symm) hhead
  exact String.toList_inj.mp htoken

variable {token token' start : String}

theorem mem_startingWith_ofToken {shown : String} (h : shown ∈ startingWith (ofToken token) start) :
    ∃ tail ∈ tails, shown = token ++ tail := by
  unfold startingWith at h
  have hmem := (List.filter_sublist.map text).subset h
  rw [map_text_ofToken] at hmem
  obtain ⟨tail, htail, rfl⟩ := List.mem_map.mp hmem
  exact ⟨tail, htail, rfl⟩

theorem nodup_startingWith_ofToken (token start : String) :
    (startingWith (ofToken token) start).Nodup := by
  have htexts : ((ofToken token).map text).Nodup := by
    rw [map_text_ofToken]
    apply List.Nodup.map
    . intro tail tail' heq
      simpa using heq
    . decide
  exact htexts.sublist (List.filter_sublist.map text)

theorem disjoint_startingWith_ofToken (h : token ≠ token') :
    (startingWith (ofToken token) start).Disjoint (startingWith (ofToken token') start) := by
  intro shown hshown hshown'
  obtain ⟨tail, htail, rfl⟩ := mem_startingWith_ofToken hshown
  obtain ⟨tail', htail', heq⟩ := mem_startingWith_ofToken hshown'
  exact h (eq_of_append_tail_eq htail htail' heq)

theorem startingWith_flatMap (tokens : List String) (start : String) :
    startingWith (tokens.flatMap ofToken) start
      =
    tokens.flatMap fun token => startingWith (ofToken token) start := by
  unfold startingWith
  rw [List.filter_flatMap, List.map_flatMap]

end Completion

open Completion

def shown (start : String) (before : List String) (token : String) : List String :=
  (startingWith (ofToken token) start).take
    (limit - (generateWords start).length -
      (before.flatMap fun token => startingWith (ofToken token) start).length)

theorem nodup_generateWords (start : String) : (generateWords start).Nodup := by
  unfold generateWords
  apply List.Nodup.filter
  decide

theorem length_generateWords_le (start : String) : (generateWords start).length ≤ limit := by
  unfold generateWords
  apply (List.length_filter_le _ _).trans
  decide

theorem disjoint_generateWords (tokens : List String) (start : String) :
    (generateWords start).Disjoint (startingWith (tokens.flatMap ofToken) start) := by
  intro word hword hshown
  rw [startingWith_flatMap] at hshown
  obtain ⟨token, _, hshown⟩ := List.mem_flatMap.mp hshown
  obtain ⟨tail, htail, rfl⟩ := mem_startingWith_ofToken hshown
  obtain ⟨zone, action, heq, _⟩ := toList_of_mem_tails htail
  -- A completion has a dash in it, and no word that asks for a menu has one.
  have hdash : ∀ word ∈ Command.generateWords, '-' ∉ word.toList := by decide
  apply hdash _ (List.mem_of_mem_filter hword)
  rw [String.toList_append, heq]
  simp

theorem nodup_forHead_iff (tokens : List String) (head : String) :
    (forHead (tokens.flatMap ofToken) head).Nodup ↔
      ∀ before token after, tokens = before ++ token :: after → token ∈ before →
        shown (Text.lower head) before token = [] := by
  unfold forHead shown
  dsimp only
  generalize Text.lower head = start
  rw [List.take_append, List.take_of_length_le (length_generateWords_le start),
    List.nodup_append', startingWith_flatMap,
    Distinct.nodup_take_flatMap_iff (nodup_startingWith_ofToken · start)
      fun _ _ => disjoint_startingWith_ofToken]
  constructor
  . rintro ⟨_, h, _⟩
    exact h
  . intro h
    refine ⟨nodup_generateWords start, h, ?_⟩
    have hdisjoint := disjoint_generateWords tokens start
    rw [startingWith_flatMap] at hdisjoint
    exact List.disjoint_of_subset_right (List.take_subset _ _) hdisjoint

theorem nodup_forHead {tokens : List String} (h : tokens.Nodup) (head : String) :
    (forHead (tokens.flatMap ofToken) head).Nodup := by
  rw [nodup_forHead_iff]
  rintro before token after rfl hmem
  rw [List.nodup_append'] at h
  exact absurd List.mem_cons_self (h.2.2 hmem)

theorem exists_atStart_eq (completions : List Completion) :
    ∃ day, atStart completions =
      "generate" :: ["-u-s " ++ sandwichHint, "-u-t " ++ textHint, "-u-clear"].map (day ++ ·) := by
  cases completions with
  | nil =>
    refine ⟨"mon", ?_⟩
    rfl
  | cons c _ =>
    refine ⟨String.ofList (c.head.toList.takeWhile (· != '-')), ?_⟩
    simp [atStart, Command.head, Zone.token, String.append_assoc]

theorem nodup_atStart (completions : List Completion) : (atStart completions).Nodup := by
  obtain ⟨day, heq⟩ := exists_atStart_eq completions
  rw [heq, List.nodup_cons]
  constructor
  . intro hmem
    obtain ⟨tail, htail, heq⟩ := List.mem_map.mp hmem
    have hdash : ∀ tail ∈ ["-u-s " ++ sandwichHint, "-u-t " ++ textHint, "-u-clear"],
        '-' ∈ tail.toList := by decide
    have hgenerate : '-' ∉ "generate".toList := by decide
    apply hgenerate
    rw [← heq, String.toList_append]
    exact List.mem_append_right _ (hdash tail htail)
  . apply List.Nodup.map
    . intro tail tail' heq
      simpa using heq
    . decide

theorem suggest_of_no_space {text : String} (h : ' ' ∉ Text.collapseBlanks text.toList)
    (days : DayTable) (catalog : Catalog) :
    suggest days catalog text =
      if Text.collapseBlanks text.toList = [] then
        atStart (Completion.all days)
      else
        forHead (Completion.all days) (String.ofList (Text.collapseBlanks text.toList)) := by
  unfold suggest
  dsimp only
  rw [Text.splitFirstBlank_of_not_blank]
  . cases Text.collapseBlanks text.toList with
    | nil => rw [if_pos rfl]
    | cons c cs => rw [if_neg (List.cons_ne_nil c cs)]
  . intro c hc
    by_contra hblank
    rw [Bool.not_eq_false] at hblank
    rw [Text.eq_space_of_mem_collapseBlanks hc hblank] at hc
    exact h hc

theorem isEmpty_shortTokens_iff {days : DayTable} :
    (days.orderedTokens.filter (·.length ≤ longestToken)).isEmpty = true ↔
      ¬∃ token ∈ days.orderedTokens, token.length ≤ 4 := by
  rw [List.isEmpty_iff, List.filter_eq_nil_iff]
  simp only [decide_eq_true_eq, not_exists, not_and]
  exact Iff.rfl

/--
For a text without a space there are two equal suggestions exactly if no short token stands for a
day and, among the first six suggestions, a label is completed that an earlier day has as well. So
there are none where a short token stands for a day or the labels are different.
-/
theorem nodup_suggest_iff {text : String} (h : ' ' ∉ Text.collapseBlanks text.toList)
    (days : DayTable) (catalog : Catalog) :
    ((suggest days catalog text).Nodup ↔
      Text.collapseBlanks text.toList = [] ∨
      (∃ token ∈ days.orderedTokens, token.length ≤ 4) ∨
      ∀ before label after, days.lowerLabels = before ++ label :: after → label ∈ before →
        shown (Text.lower (String.ofList (Text.collapseBlanks text.toList))) before label = []) ∧
    ((∃ token ∈ days.orderedTokens, token.length ≤ 4) ∨ days.lowerLabels.Nodup →
      (suggest days catalog text).Nodup) := by
  rw [suggest_of_no_space h]
  split
  . next hempty =>
    have hstart := nodup_atStart (Completion.all days)
    exact ⟨iff_of_true hstart (Or.inl hempty), fun _ => hstart⟩
  . next hempty =>
    unfold Completion.all
    dsimp only
    split
    . next hshort =>
      rw [isEmpty_shortTokens_iff] at hshort
      simp only [hempty, hshort, false_or]
      exact ⟨nodup_forHead_iff _ _, fun hlabels => nodup_forHead hlabels _⟩
    . next hshort =>
      rw [isEmpty_shortTokens_iff, not_not] at hshort
      have hhead := nodup_forHead (days.nodup_orderedTokens.filter (·.length ≤ longestToken))
        (String.ofList (Text.collapseBlanks text.toList))
      exact ⟨iff_of_true hhead (Or.inr (Or.inl hshort)), fun _ => hhead⟩

theorem nodup_suggest_iff_weekday :
    let days : DayTable := ⟨["Weekday", "Weekend"], []⟩
    ' ' ∉ Text.collapseBlanks "Week".toList ∧ days.lowerLabels.Nodup ∧
    suggest days ⟨[]⟩ "Week" =
      ["weekday-u-s ", "weekday-u-t ", "weekday-u-clear",
        "weekday-l-s ", "weekday-l-t ", "weekday-l-clear"] ∧
    (suggest days ⟨[]⟩ "Week").Nodup := by
  intro days
  have hspace : ' ' ∉ Text.collapseBlanks "Week".toList := by decide
  have hlabels : days.lowerLabels.Nodup := by decide +kernel
  refine ⟨hspace, hlabels, by decide +kernel, ?_⟩
  exact (nodup_suggest_iff hspace days ⟨[]⟩).2 (Or.inr hlabels)

theorem suggest_repeats_label :
    let days : DayTable := ⟨["Monday", "Tuesday", "MONDAY"], []⟩
    days.orderedTokens = ["monday", "tuesday"] ∧
    ' ' ∉ Text.collapseBlanks "monday-u".toList ∧
    suggest days ⟨[]⟩ "monday-u" =
      ["monday-u-s ", "monday-u-t ", "monday-u-clear",
        "monday-u-s ", "monday-u-t ", "monday-u-clear"] ∧
    ¬(suggest days ⟨[]⟩ "monday-u").Nodup := by
  decide +kernel

end Suggestion
end WeekMenu

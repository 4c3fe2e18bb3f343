import WeekMenu.Proofs.State.CommandBar
import WeekMenu.Proofs.Suggestion.Offer
import WeekMenu.Proofs.Text.Mark

/-!
This module contains what the command bar holds once a suggestion is accepted. A placeholder is
found by the way in which it starts, and a command or a meal in which there is such a start is cut
there, too.
-/

namespace WeekMenu
namespace CommandBar

def placeholderStart : List Char := [' ', '<']

theorem isMark_placeholderStart : Text.IsMark ' ' placeholderStart :=
  ⟨['<'], rfl, by decide⟩

section WithoutPlaceholder

variable {cs before after : List Char}

theorem go_withoutPlaceholder_append (taken : List Char)
    (h : ¬Text.StartsIn placeholderStart before after) :
    withoutPlaceholder.go taken (before ++ after)
      =
    withoutPlaceholder.go (before.reverse ++ taken) after := by
  induction before generalizing taken with
  | nil => rfl
  | cons c before ih =>
    rw [Text.startsIn_cons, not_or] at h
    rw [List.cons_append, withoutPlaceholder.go, ih _ h.2]
    . simp
    . rintro rest rfl hrest
      apply h.1
      refine ⟨rest, ?_⟩
      rw [hrest]
      rfl

theorem withoutPlaceholder_first (h : ¬placeholderStart <:+: before) (after : List Char) :
    withoutPlaceholder (before ++ (placeholderStart ++ after)) = before ++ [' '] := by
  have hstarts : ¬Text.StartsIn placeholderStart before (placeholderStart ++ after) :=
    mt (isMark_placeholderStart.infix_of_startsIn_append isMark_placeholderStart) h
  unfold withoutPlaceholder
  rw [go_withoutPlaceholder_append [] hstarts]
  simp [placeholderStart, withoutPlaceholder.go]

theorem withoutPlaceholder_of_absent (h : ¬placeholderStart <:+: cs) :
    withoutPlaceholder cs = cs := by
  have hstarts : ¬Text.StartsIn placeholderStart cs [] := mt Text.infix_of_startsIn_nil h
  have hgo := go_withoutPlaceholder_append [] hstarts
  unfold withoutPlaceholder
  simpa [withoutPlaceholder.go] using hgo

theorem withoutPlaceholder_eq_self_iff :
    withoutPlaceholder cs = cs ↔ ¬placeholderStart <:+: cs := by
  constructor
  . intro heq hstart
    obtain ⟨before, after, rfl, hbefore⟩ := isMark_placeholderStart.exists_first hstart
    rw [withoutPlaceholder_first hbefore] at heq
    have hrest := List.append_cancel_left heq
    simp [placeholderStart] at hrest
  . exact withoutPlaceholder_of_absent

theorem withoutPlaceholder_append_iff :
    withoutPlaceholder (before ++ (placeholderStart ++ after)) = before ++ [' '] ↔
      ¬placeholderStart <:+: before := by
  constructor
  . intro heq
    obtain ⟨first, rest, hfirst, hnot⟩ :=
      isMark_placeholderStart.exists_first (List.infix_append' before placeholderStart after)
    rw [hfirst, withoutPlaceholder_first hnot] at heq
    rwa [← List.append_cancel_right heq]
  . intro h
    exact withoutPlaceholder_first h after

end WithoutPlaceholder

theorem placeholderStart_space_iff {cs : List Char} :
    placeholderStart <:+: cs ++ [' '] ↔ placeholderStart <:+: cs := by
  constructor
  . intro hstart
    rcases Text.infix_append_iff.mp hstart with hstarts | hspace
    . exact isMark_placeholderStart.infix_of_startsIn rfl hstarts
    . exact absurd hspace.length_le (by decide)
  . exact List.infix_append_of_infix_left

open Suggestion (Offer placeholder)

theorem withoutPlaceholder_text_eq_kept_iff (o : Offer) :
    String.ofList (withoutPlaceholder o.text.toList) = o.kept ↔
      ¬placeholderStart <:+: o.kept.toList := by
  rw [← String.toList_inj, String.toList_ofList]
  cases o with
  | hint head kind =>
    obtain ⟨rest, hrest⟩ : ∃ rest, (placeholder kind).toList = '<' :: rest := by
      cases kind <;> exact ⟨_, rfl⟩
    have htext : (Offer.hint head kind).text.toList
        = head.toList ++ (placeholderStart ++ rest) := by
      simp [Offer.text, hrest, placeholderStart]
    have hkept : (Offer.hint head kind).kept.toList = head.toList ++ [' '] := by
      simp [Offer.kept]
    rw [htext, hkept, placeholderStart_space_iff]
    exact withoutPlaceholder_append_iff
  | command text => exact withoutPlaceholder_eq_self_iff
  | completion c => exact withoutPlaceholder_eq_self_iff
  | sandwich head m => exact withoutPlaceholder_eq_self_iff

theorem placeholderStart_sandwich_iff {head : String} (m : Meal)
    (h : ∀ c ∈ head.toList, Text.isBlank c = false) :
    placeholderStart <:+: (Offer.sandwich head m).kept.toList ↔
      placeholderStart <:+: ' ' :: m.name.toList := by
  have hspace : ' ' ∉ head.toList := by
    intro hmem
    exact absurd (h ' ' hmem) (by decide)
  have htext : (Offer.sandwich head m).kept.toList = head.toList ++ ' ' :: m.name.toList := by
    simp [Offer.kept, Offer.text]
  rw [htext, Text.infix_append_iff,
    or_iff_right (isMark_placeholderStart.not_startsIn_of_not_mem hspace _)]

end CommandBar

namespace State

theorem bar_acceptSuggestion {s : State} {b : CommandBar} (hb : s.bar = some b) {text : String}
    (h : b.accepted? = some text) (now : Nat) :
    (s.update now .acceptSuggestion).state.bar = some (b.setText text (s.suggest text)) := by
  unfold update
  dsimp only
  rw [hb, Option.bind_some, h]
  dsimp only
  unfold replaceText
  rw [hb, Option.map_some]

theorem update_acceptSuggestion_iff {s : State} {b : CommandBar} (hb : s.bar = some b)
    {typed : String} (htyped : b.suggestions = s.suggest typed) {o : Suggestion.Offer}
    (ho : (Suggestion.offers s.days s.catalog typed)[b.selected.getD 0]? = some o) (now : Nat) :
    b.suggestions[b.selected.getD 0]? = some o.text ∧
    ∃ b', (s.update now .acceptSuggestion).state.bar = some b' ∧ b.accepted? = some b'.text ∧
      (b'.text = o.kept ↔ ¬[' ', '<'] <:+: o.kept.toList) ∧
      ∀ head m, o = .sandwich head m →
        (b'.text = head ++ " " ++ m.name ↔ ¬[' ', '<'] <:+: ' ' :: m.name.toList) := by
  have hselected : b.suggestions[b.selected.getD 0]? = some o.text := by
    have hsuggest := Suggestion.map_text_offers s.days s.catalog typed
    rw [htyped, suggest, ← hsuggest, List.getElem?_map, ho, Option.map_some]
  let text := String.ofList (CommandBar.withoutPlaceholder o.text.toList)
  have haccepted : b.accepted? = some text := by
    unfold CommandBar.accepted?
    rw [hselected, Option.map_some]
  have htext : (b.setText text (s.suggest text)).text = text := b.text_setText text _
  have hkept := CommandBar.withoutPlaceholder_text_eq_kept_iff o
  refine ⟨hselected, b.setText text (s.suggest text), bar_acceptSuggestion hb haccepted now, ?_⟩
  rw [htext]
  refine ⟨haccepted, hkept, ?_⟩
  rintro head m rfl
  have hmem := List.mem_of_getElem? ho
  rw [CommandBar.placeholderStart_sandwich_iff m (Suggestion.not_blank_of_sandwich_mem hmem)]
    at hkept
  exact hkept

theorem update_acceptSuggestion_iff_ham :
    let s := ({ initial with catalog := ⟨[⟨"Ham>2<3", ""⟩]⟩ }.update 0
      (.enterCommandBar (some "mon-u-s HAM"))).state
    s.bar.map (·.suggestions) = some ["mon-u-s Ham>2<3"] ∧
    (s.update 0 .acceptSuggestion).state.bar.map (·.text) = some "mon-u-s Ham>2<3" := by
  intro s
  have hoffer : (Suggestion.offers s.days s.catalog "mon-u-s HAM")[0]?
      = some (.sandwich "mon-u-s" ⟨"Ham>2<3", ""⟩) := by
    decide +kernel
  obtain ⟨_, b, hb, _, _, hmeal⟩ :=
    update_acceptSuggestion_iff (s := s) (b := .opened "mon-u-s HAM" (s.suggest "mon-u-s HAM"))
      rfl rfl hoffer 0
  have htext := (hmeal "mon-u-s" ⟨"Ham>2<3", ""⟩ rfl).mpr (by decide)
  refine ⟨by decide +kernel, ?_⟩
  rw [hb, Option.map_some, htext]
  rfl

theorem acceptSuggestion_cuts_meal :
    let s := ({ initial with catalog := ⟨[⟨"Ham <3", ""⟩]⟩ }.update 0
      (.enterCommandBar (some "mon-u-s ham"))).state
    s.bar.map (·.suggestions) = some ["mon-u-s Ham <3"] ∧
    (s.update 0 .acceptSuggestion).state.bar.map (·.text) = some "mon-u-s Ham " := by
  decide +kernel

end State
end WeekMenu

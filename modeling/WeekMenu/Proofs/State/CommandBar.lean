import WeekMenu.Proofs.Cycle
import WeekMenu.Proofs.State.TextInput
import WeekMenu.Proofs.State.WellFormed
import WeekMenu.Proofs.Suggestion

/-!
This module contains the invariant of the command bar: its suggestions are those for its text, and
a suggestion that is selected is one of them.
-/

namespace WeekMenu

namespace CommandBar

theorem text_opened (text : String) (suggestions : List String) :
    (opened text suggestions).text = text :=
  TextInput.text_ofText text

theorem text_setText (b : CommandBar) (text : String) (suggestions : List String) :
    (b.setText text suggestions).text = text :=
  TextInput.text_ofText text

structure Coherent (suggest : String → List String) (b : CommandBar) : Prop where
  suggestions : b.suggestions = suggest b.text
  selected : ∀ i, b.selected = some i → i < b.suggestions.length

theorem coherent_opened (suggest : String → List String) (text : String) :
    (opened text (suggest text)).Coherent suggest where
  suggestions := by rw [text_opened]; rfl
  selected := nofun

theorem coherent_setText (suggest : String → List String) (b : CommandBar) (text : String) :
    (b.setText text (suggest text)).Coherent suggest where
  suggestions := by rw [text_setText]; rfl
  selected := nofun

namespace Coherent

variable {suggest : String → List String} {b : CommandBar}

theorem selectNext (h : b.Coherent suggest) : b.selectNext.Coherent suggest := by
  unfold CommandBar.selectNext
  split
  . exact h
  . next hne =>
    have hpos : 0 < b.suggestions.length := by
      rwa [List.length_pos_iff, ne_eq, ← List.isEmpty_iff]
    refine ⟨h.suggestions, ?_⟩
    rintro _ ⟨⟩
    split
    . exact Nat.mod_lt _ hpos
    . exact hpos

theorem selectPrev (h : b.Coherent suggest) : b.selectPrev.Coherent suggest := by
  unfold CommandBar.selectPrev
  split
  . exact h
  . next hne =>
    have hpos : 0 < b.suggestions.length := by
      rwa [List.length_pos_iff, ne_eq, ← List.isEmpty_iff]
    refine ⟨h.suggestions, ?_⟩
    rintro _ ⟨⟩
    split
    . next i hi => exact Nat.lt_of_succ_lt (h.selected _ hi)
    . exact Nat.sub_one_lt_of_lt hpos

theorem isSome_accepted? (h : b.Coherent suggest) (hne : b.suggestions ≠ []) :
    b.accepted?.isSome := by
  unfold accepted?
  rw [Option.isSome_map, isSome_getElem?]
  cases hi : b.selected with
  | none => exact List.length_pos_iff.mpr hne
  | some i => exact h.selected i hi

end Coherent

section Selected

variable {b : CommandBar} {i : Nat}

theorem not_isEmpty_of_lt (hi : i < b.suggestions.length) : ¬b.suggestions.isEmpty = true := by
  rw [List.isEmpty_iff]
  exact List.length_pos_iff.mp (Nat.zero_lt_of_lt hi)

theorem selectNext_of_selected (hi : i < b.suggestions.length) :
    { b with selected := some i }.selectNext
      =
    { b with selected := some ((i + 1) % b.suggestions.length) } := by
  unfold selectNext
  rw [if_neg (not_isEmpty_of_lt hi)]

theorem selectPrev_of_selected (hi : i < b.suggestions.length) :
    { b with selected := some i }.selectPrev
      =
    { b with selected := some (if i = 0 then b.suggestions.length - 1 else i - 1) } := by
  unfold selectPrev
  rw [if_neg (not_isEmpty_of_lt hi)]
  cases i <;> rfl

theorem selectPrev_selectNext (hb : b.selected = some i) (hi : i < b.suggestions.length) :
    b.selectNext.selectPrev = b := by
  have hself : b = { b with selected := some i } := by rw [← hb]
  rw [hself, selectNext_of_selected hi, selectPrev_of_selected (Cycle.next_lt hi),
    Cycle.prev_next hi]

theorem selectNext_selectPrev (hb : b.selected = some i) (hi : i < b.suggestions.length) :
    b.selectPrev.selectNext = b := by
  have hself : b = { b with selected := some i } := by rw [← hb]
  rw [hself, selectPrev_of_selected hi, selectNext_of_selected (Cycle.prev_lt hi),
    Cycle.next_prev hi]

end Selected

end CommandBar

namespace State

def BarCoherent (s : State) : Prop :=
  ∀ b, s.bar = some b → b.Coherent s.suggest

namespace BarCoherent

variable {s : State}

theorem openBar (s : State) (text : String) : (s.openBar text).BarCoherent := by
  rintro _ ⟨⟩
  exact CommandBar.coherent_opened s.suggest text

theorem mapBar (h : s.BarCoherent) {f : CommandBar → CommandBar}
    (hf : ∀ b : CommandBar, b.Coherent s.suggest → (f b).Coherent s.suggest) :
    { s with bar := s.bar.map f }.BarCoherent := by
  intro b hb
  obtain ⟨c, hc, rfl⟩ := Option.map_eq_some_iff.mp hb
  exact hf c (h c hc)

theorem recalls (h : s.BarCoherent) {f : CommandBar → CommandBar} (hf : s.Recalls f) :
    { s with bar := s.bar.map f }.BarCoherent := by
  apply h.mapBar
  intro b hb
  obtain hsame | ⟨text, historyIndex, htext⟩ := hf b
  . rw [hsame]
    exact hb
  . have hset := CommandBar.coherent_setText s.suggest b text
    rw [htext]
    exact ⟨hset.suggestions, hset.selected⟩

theorem typeKey (h : s.BarCoherent) (key : Key) : (s.typeKey key).BarCoherent := by
  apply h.mapBar
  intro b _
  refine ⟨?_, nofun⟩
  dsimp only [CommandBar.text]

theorem update (h : s.BarCoherent) (now : Nat) (action : Action) :
    (s.update now action).state.BarCoherent := by
  cases action
  all_goals
    unfold State.update
    dsimp only
  case editSelectedSlot =>
    split
    . exact openBar s _
    . exact h
  case enterCommandBar => exact openBar s _
  case textInput key => exact h.typeKey key
  case suggestionNext => exact h.mapBar fun _ hb => hb.selectNext
  case suggestionPrev => exact h.mapBar fun _ hb => hb.selectPrev
  case acceptSuggestion =>
    split
    . next text _ =>
      obtain ⟨f, hf, htext⟩ := s.recalls_replaceText text
      rw [htext]
      exact h.recalls hf
    . exact h
  case historyPrev =>
    obtain ⟨f, hf, hprev⟩ := s.recalls_historyPrev
    rw [hprev]
    exact h.recalls hf
  case historyNext =>
    obtain ⟨f, hf, hnext⟩ := s.recalls_historyNext
    rw [hnext]
    exact h.recalls hf
  case submitCommand =>
    split
    . exact h
    . exact nofun
  case cancelMode => exact nofun
  case commandExecuted command outcome =>
    obtain ⟨_, _, hdone⟩ | ⟨_, _, hdone⟩ := s.commandDone_cases now command outcome
    all_goals
      rw [hdone]
      exact h
  case confirmThemeSelection =>
    obtain hsame | ⟨_, hchosen⟩ := s.confirmTheme_cases
    . rw [hsame]
      exact h
    . rw [hchosen]
      exact h
  case tick =>
    obtain hkept | hgone := expireNotice_cases { s with frame := s.frame + 1 } now
    . rw [hkept]
      exact h
    . rw [hgone]
      exact h
  case menuPublished menu =>
    obtain ⟨_, hshown⟩ := s.showMenu_eq menu
    rw [hshown]
    exact h
  -- What is left touches neither the bar nor the tables that the suggestions are taken from.
  all_goals repeat' split
  all_goals exact h

end BarCoherent

theorem Reachable.barCoherent {s : State} (h : Reachable s) : s.BarCoherent := by
  induction h with
  | initial => exact nofun
  | new config catalog historyPath recents => exact nofun
  | update _ now action ih => exact ih.update now action

theorem update_suggestionNext_suggestionPrev {s : State} {b : CommandBar} {i : Nat}
    (hb : s.bar = some b) (hsel : b.selected = some i) (hi : i < b.suggestions.length)
    (now later : Nat) :
    ((s.update now .suggestionNext).state.update later .suggestionPrev).state = s := by
  change { s with bar := (s.bar.map (·.selectNext)).map (·.selectPrev) } = s
  rw [hb, Option.map_some, Option.map_some, CommandBar.selectPrev_selectNext hsel hi, ← hb]

theorem update_suggestionPrev_suggestionNext {s : State} {b : CommandBar} {i : Nat}
    (hb : s.bar = some b) (hsel : b.selected = some i) (hi : i < b.suggestions.length)
    (now later : Nat) :
    ((s.update now .suggestionPrev).state.update later .suggestionNext).state = s := by
  change { s with bar := (s.bar.map (·.selectPrev)).map (·.selectNext) } = s
  rw [hb, Option.map_some, Option.map_some, CommandBar.selectNext_selectPrev hsel hi, ← hb]

theorem reachable_bar {s : State} (h : Reachable s) {b : CommandBar} (hb : s.bar = some b) :
    b.suggestions = Suggestion.suggest s.days s.catalog b.text ∧
    b.suggestions.length ≤ 6 ∧
    (b.suggestions ≠ [] → b.accepted?.isSome) ∧
    ∀ i, b.selected = some i → i < b.suggestions.length ∧ ∀ now later,
      ((s.update now .suggestionNext).state.update later .suggestionPrev).state = s ∧
      ((s.update now .suggestionPrev).state.update later .suggestionNext).state = s := by
  have hc := h.barCoherent b hb
  refine ⟨hc.suggestions, ?_, hc.isSome_accepted?, ?_⟩
  . rw [hc.suggestions]
    exact Suggestion.length_suggest_le s.days s.catalog b.text
  . intro i hsel
    have hi := hc.selected i hsel
    refine ⟨hi, ?_⟩
    intro now later
    exact ⟨update_suggestionNext_suggestionPrev hb hsel hi now later,
      update_suggestionPrev_suggestionNext hb hsel hi now later⟩

theorem reachable_bar_gen :
    let s := (initial.update 0 (.enterCommandBar (some " ge"))).state
    let t := (s.update 0 .suggestionPrev).state
    let b : CommandBar := ⟨.ofText " ge", ["generate", "gen"], some 1, none⟩
    Reachable t ∧ t.bar = some b ∧
      Suggestion.suggest t.days t.catalog " ge" = ["generate", "gen"] ∧
      ((t.update 0 .suggestionNext).state.update 0 .suggestionPrev).state = t := by
  intro s t b
  have ht : Reachable t := (Reachable.initial.update 0 _).update 0 _
  have hb : t.bar = some b := by decide +kernel
  obtain ⟨hsuggest, _, _, hselected⟩ := reachable_bar ht hb
  exact ⟨ht, hb, hsuggest.symm, ((hselected 1 rfl).2 0 0).1⟩

end State
end WeekMenu

import WeekMenu.Proofs.History
import WeekMenu.State.Update

/-!
This module contains what the parts of an update do to the state, each said once, so that what an
invariant needs of them can be read off.
-/

namespace WeekMenu

def Action.concernsWeek : Action → Bool
  | .moveLeft => true
  | .moveRight => true
  | .moveUp => true
  | .moveDown => true
  | .selectSlot _ _ => true
  | .commandExecuted _ _ => true
  | .menuPublished _ => true
  | _ => false

namespace State

def Recalls (s : State) (f : CommandBar → CommandBar) : Prop :=
  ∀ b, f b = b ∨ ∃ text historyIndex,
    f b = { b.setText text (s.suggest text) with historyIndex }

theorem recalls_self (s : State) : ∃ f, s.Recalls f ∧ s = { s with bar := s.bar.map f } := by
  refine ⟨id, fun _ => Or.inl rfl, ?_⟩
  rw [Option.map_id]
  rfl

theorem recalls_replaceText (s : State) (text : String) :
    ∃ f, s.Recalls f ∧ s.replaceText text = { s with bar := s.bar.map f } :=
  ⟨_, fun b => Or.inr ⟨text, b.historyIndex, rfl⟩, rfl⟩

theorem recalls_showRecent (s : State) (index : Nat) :
    ∃ f, s.Recalls f ∧ s.showRecent index = { s with bar := s.bar.map f } := by
  unfold showRecent
  split
  . exact recalls_self s
  . next command _ =>
    refine ⟨_, fun b => Or.inr ⟨command, some index, rfl⟩, ?_⟩
    unfold replaceText
    dsimp only
    rw [Option.map_map]
    rfl

theorem recalls_historyPrev (s : State) :
    ∃ f, s.Recalls f ∧ s.historyPrev = { s with bar := s.bar.map f } := by
  unfold historyPrev
  split
  . exact recalls_showRecent s 0
  . exact recalls_showRecent s _

theorem recalls_historyNext (s : State) :
    ∃ f, s.Recalls f ∧ s.historyNext = { s with bar := s.bar.map f } := by
  unfold historyNext
  split
  . exact recalls_self s
  . exact recalls_replaceText s ""
  . exact recalls_showRecent s _

theorem expireNotice_cases (s : State) (now : Nat) :
    s.expireNotice now = s ∨
    s.expireNotice now = { s with notice := none, noticeDeadline := none } := by
  unfold expireNotice
  split
  . split
    . exact Or.inr rfl
    . exact Or.inl rfl
  . exact Or.inl rfl

theorem confirmTheme_cases (s : State) :
    s.confirmTheme = { s with picker := none, mode := .normal } ∨
    ∃ palette, s.confirmTheme =
      { s with palette, theme := .ofName palette, picker := none, mode := .normal } := by
  unfold confirmTheme
  split
  . next palette _ => exact Or.inr ⟨palette, rfl⟩
  . exact Or.inl rfl

theorem commandDone_cases (s : State) (now : Nat) (command : String) (outcome : Outcome) :
    (outcome.success = false ∧ ∃ trouble,
      s.commandDone now command outcome = ⟨{ s with trouble := some trouble }, none, none⟩) ∨
    (outcome.success = true ∧ ∃ history,
      s.commandDone now command outcome =
        ⟨{ s.notify now outcome.message with
            trouble := none
            recents := History.remember s.recents command }, none, history⟩) := by
  unfold commandDone Trouble.ofOutcome?
  cases outcome with
  | accepted message => exact Or.inr ⟨rfl, _, rfl⟩
  | rejected reason => exact Or.inl ⟨rfl, _, rfl⟩
  | failed message => exact Or.inl ⟨rfl, _, rfl⟩

theorem commandDone_request (s : State) (now : Nat) (command : String) (outcome : Outcome) :
    (s.commandDone now command outcome).request = none := by
  obtain ⟨_, _, h⟩ | ⟨_, _, h⟩ := s.commandDone_cases now command outcome
  . rw [h]
  . rw [h]

theorem commandDone_history (s : State) (now : Nat) {command : String}
    (h : Text.trim command ≠ "") {outcome : Outcome} (ho : outcome.success = true) :
    (s.commandDone now command outcome).history
      =
    some (s.commandDone now command outcome).state.recents := by
  unfold commandDone Trouble.ofOutcome?
  cases outcome with
  | accepted message =>
    dsimp only
    rw [if_neg (by rwa [String.isEmpty_iff])]
  | rejected reason => cases ho
  | failed message => cases ho

theorem commandDone_keeps (s : State) (now : Nat) (command : String) (outcome : Outcome) :
    (s.commandDone now command outcome).state.mode = s.mode ∧
    (s.commandDone now command outcome).state.bar = s.bar ∧
    (s.commandDone now command outcome).state.quitting = s.quitting := by
  obtain ⟨_, _, h⟩ | ⟨_, _, h⟩ := s.commandDone_cases now command outcome
  . rw [h]
    exact ⟨rfl, rfl, rfl⟩
  . rw [h]
    exact ⟨rfl, rfl, rfl⟩

theorem recents_commandDone (s : State) (now : Nat) (command : String) {outcome : Outcome}
    (ho : outcome.success = true) :
    (s.commandDone now command outcome).state.recents = History.remember s.recents command := by
  obtain ⟨hfailed, _⟩ | ⟨_, _, hdone⟩ := s.commandDone_cases now command outcome
  . rw [ho] at hfailed
    cases hfailed
  . rw [hdone]

theorem head?_recents_commandDone (s : State) (now : Nat) {command : String}
    (h : Text.trim command ≠ "") {outcome : Outcome} (ho : outcome.success = true) :
    (s.commandDone now command outcome).state.recents.head? = some (Text.trim command) := by
  rw [s.recents_commandDone now command ho]
  exact History.head?_remember s.recents h

theorem showMenu_eq (s : State) (menu : Option Grid) :
    ∃ cursor, s.showMenu menu = { s with menu, summary := .ofMenu menu, cursor } := by
  cases menu with
  | none => exact ⟨s.cursor, rfl⟩
  | some g => exact ⟨s.cursor.clamp g.dayCount, rfl⟩

theorem update_submitCommand {s : State} {b : CommandBar} (hb : s.bar = some b) (now : Nat) :
    s.update now .submitCommand =
      ⟨{ s with bar := none, mode := .normal },
        if Text.trim b.text = "" then none else some (.execute (Text.trim b.text)),
        none⟩ := by
  unfold update
  dsimp only
  rw [hb]
  simp only [String.isEmpty_iff]

structure Keeps (s t : State) : Prop where
  days : t.days = s.days
  catalog : t.catalog = s.catalog
  menu : t.menu = s.menu
  summary : t.summary = s.summary
  cursor : t.cursor = s.cursor
  recents : t.recents = s.recents
  historyPath : t.historyPath = s.historyPath
  keymap : t.keymap = s.keymap

theorem keeps_update (s : State) (now : Nat) {action : Action}
    (h : action.concernsWeek = false) : s.Keeps (s.update now action).state := by
  cases action
  case moveLeft => cases h
  case moveRight => cases h
  case moveUp => cases h
  case moveDown => cases h
  case selectSlot => cases h
  case commandExecuted => cases h
  case menuPublished => cases h
  all_goals
    unfold update
    dsimp only
  case tick =>
    obtain h | h := expireNotice_cases { s with frame := s.frame + 1 } now
    all_goals
      rw [h]
      exact ⟨rfl, rfl, rfl, rfl, rfl, rfl, rfl, rfl⟩
  case historyPrev =>
    obtain ⟨f, _, h⟩ := s.recalls_historyPrev
    rw [h]
    exact ⟨rfl, rfl, rfl, rfl, rfl, rfl, rfl, rfl⟩
  case historyNext =>
    obtain ⟨f, _, h⟩ := s.recalls_historyNext
    rw [h]
    exact ⟨rfl, rfl, rfl, rfl, rfl, rfl, rfl, rfl⟩
  case confirmThemeSelection =>
    obtain h | ⟨_, h⟩ := s.confirmTheme_cases
    all_goals
      rw [h]
      exact ⟨rfl, rfl, rfl, rfl, rfl, rfl, rfl, rfl⟩
  -- What is left sets other fields, in some of its branches or in all of them.
  all_goals repeat' split
  all_goals exact ⟨rfl, rfl, rfl, rfl, rfl, rfl, rfl, rfl⟩

end State
end WeekMenu

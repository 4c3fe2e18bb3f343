import WeekMenu.Proofs.State.Update

/-!
This module contains the invariant of the states that the program can come to: what the mode shows
is there, a notice has a time at which it goes away, the styles are those of the palette, and
neither the choice of a palette nor the mail is left behind its end.
-/

namespace WeekMenu

namespace ThemePicker

def InRange (p : ThemePicker) : Prop :=
  p.index < p.palettes.length

theorem inRange_startingAt (current : PaletteName) : (startingAt current).InRange := by
  unfold InRange
  cases current <;> decide

theorem InRange.next {p : ThemePicker} (h : p.InRange) : p.next.InRange := by
  unfold ThemePicker.next
  split
  . exact h
  . apply Nat.mod_lt
    exact Nat.zero_lt_of_lt h

theorem InRange.prev {p : ThemePicker} (h : p.InRange) : p.prev.InRange := by
  unfold InRange at h ⊢
  unfold ThemePicker.prev
  split
  . exact h
  . split
    . dsimp only
      omega
    . dsimp only
      omega

end ThemePicker

namespace MailPreview

def InRange (p : MailPreview) : Prop :=
  p.scroll ≤ p.lines.length - 1

theorem inRange_ofMail (content : String) : (ofMail content).InRange := by
  apply Nat.zero_le

theorem inRange_scrollDown (p : MailPreview) (n : Nat) : (p.scrollDown n).InRange := by
  have hlast : p.lastScroll ≤ p.lines.length - 1 := Nat.mod_le _ _
  apply Nat.le_trans _ hlast
  apply Nat.min_le_right

theorem InRange.scrollUp {p : MailPreview} (h : p.InRange) (n : Nat) : (p.scrollUp n).InRange := by
  apply Nat.le_trans _ h
  apply Nat.sub_le

end MailPreview

namespace State

inductive Reachable : State → Prop where
  | initial : Reachable .initial
  | new (config : Config) (catalog : Catalog) (historyPath : Option String)
      (recents : List String) : Reachable (.new config catalog historyPath recents)
  | update {s : State} (h : Reachable s) (now : Nat) (action : Action) :
      Reachable (s.update now action).state

/--
The invariant of a state. What is open may stay behind when the mode changes, so that the mode says
what is there but not what is not.
-/
structure WellFormed (s : State) : Prop where
  bar : s.mode = .commandBar → s.bar.isSome
  mail : s.mode = .mailPreview → s.mail.isSome
  picker : s.mode = .themeSelection → s.picker.isSome
  notice : s.notice.isSome ↔ s.noticeDeadline.isSome
  theme : s.theme = .ofName s.palette
  highlight : ∀ p, s.picker = some p → p.InRange
  scroll : ∀ p, s.mail = some p → p.InRange

namespace WellFormed

theorem initial : State.initial.WellFormed where
  bar := nofun
  mail := nofun
  picker := nofun
  notice := Iff.rfl
  theme := rfl
  highlight := nofun
  scroll := nofun

theorem new (config : Config) (catalog : Catalog) (historyPath : Option String)
    (recents : List String) : (State.new config catalog historyPath recents).WellFormed where
  bar := nofun
  mail := nofun
  picker := nofun
  notice := Iff.rfl
  theme := rfl
  highlight := nofun
  scroll := nofun

variable {s : State}

theorem openBar (h : s.WellFormed) (text : String) : (s.openBar text).WellFormed where
  bar _ := rfl
  mail := nofun
  picker := nofun
  notice := h.notice
  theme := h.theme
  highlight := h.highlight
  scroll := h.scroll

theorem mapBar (h : s.WellFormed) (f : CommandBar → CommandBar) :
    { s with bar := s.bar.map f }.WellFormed := by
  refine ⟨?_, h.mail, h.picker, h.notice, h.theme, h.highlight, h.scroll⟩
  intro hmode
  rw [Option.isSome_map]
  exact h.bar hmode

theorem mapMail (h : s.WellFormed) {f : MailPreview → MailPreview}
    (hf : ∀ p : MailPreview, p.InRange → (f p).InRange) :
    { s with mail := s.mail.map f }.WellFormed := by
  refine ⟨h.bar, ?_, h.picker, h.notice, h.theme, h.highlight, ?_⟩
  . intro hmode
    rw [Option.isSome_map]
    exact h.mail hmode
  . intro p hp
    obtain ⟨q, hq, rfl⟩ := Option.map_eq_some_iff.mp hp
    exact hf q (h.scroll q hq)

theorem mapPicker (h : s.WellFormed) {f : ThemePicker → ThemePicker}
    (hf : ∀ p : ThemePicker, p.InRange → (f p).InRange) :
    { s with picker := s.picker.map f }.WellFormed := by
  refine ⟨h.bar, h.mail, ?_, h.notice, h.theme, ?_, h.scroll⟩
  . intro hmode
    rw [Option.isSome_map]
    exact h.picker hmode
  . intro p hp
    obtain ⟨q, hq, rfl⟩ := Option.map_eq_some_iff.mp hp
    exact hf q (h.highlight q hq)

theorem cancel (h : s.WellFormed) : s.cancel.WellFormed :=
  ⟨nofun, nofun, nofun, h.notice, h.theme, nofun, nofun⟩

theorem update (h : s.WellFormed) (now : Nat) (action : Action) :
    (s.update now action).state.WellFormed := by
  cases action
  all_goals
    unfold State.update
    dsimp only
  case editSelectedSlot =>
    split
    . exact h.openBar _
    . exact h
  case enterCommandBar => exact h.openBar _
  case textInput => exact h.mapBar _
  case suggestionNext => exact h.mapBar _
  case suggestionPrev => exact h.mapBar _
  case acceptSuggestion =>
    split
    . exact h.mapBar _
    . exact h
  case historyPrev =>
    obtain ⟨f, _, hprev⟩ := s.recalls_historyPrev
    rw [hprev]
    exact h.mapBar f
  case historyNext =>
    obtain ⟨f, _, hnext⟩ := s.recalls_historyNext
    rw [hnext]
    exact h.mapBar f
  case submitCommand =>
    split
    . exact h
    . exact ⟨nofun, nofun, nofun, h.notice, h.theme, h.highlight, h.scroll⟩
  case commandExecuted command outcome =>
    obtain ⟨_, _, hdone⟩ | ⟨_, _, hdone⟩ := s.commandDone_cases now command outcome
    . rw [hdone]
      exact ⟨h.bar, h.mail, h.picker, h.notice, h.theme, h.highlight, h.scroll⟩
    . rw [hdone]
      exact ⟨h.bar, h.mail, h.picker, Iff.rfl, h.theme, h.highlight, h.scroll⟩
  case cancelMode => exact h.cancel
  case toggleHelp =>
    split
    . exact ⟨nofun, nofun, nofun, h.notice, h.theme, h.highlight, h.scroll⟩
    . exact ⟨nofun, nofun, nofun, h.notice, h.theme, h.highlight, h.scroll⟩
  case enterThemeSelection =>
    refine ⟨nofun, nofun, fun _ => rfl, h.notice, h.theme, ?_, h.scroll⟩
    rintro _ ⟨⟩
    exact ThemePicker.inRange_startingAt s.palette
  case selectThemeNext => exact h.mapPicker fun _ hp => hp.next
  case selectThemePrev => exact h.mapPicker fun _ hp => hp.prev
  case confirmThemeSelection =>
    obtain hsame | ⟨_, hchosen⟩ := s.confirmTheme_cases
    . rw [hsame]
      exact ⟨nofun, nofun, nofun, h.notice, h.theme, nofun, h.scroll⟩
    . rw [hchosen]
      exact ⟨nofun, nofun, nofun, h.notice, rfl, nofun, h.scroll⟩
  case mailGenerated mail =>
    refine ⟨nofun, fun _ => rfl, nofun, h.notice, h.theme, h.highlight, ?_⟩
    rintro _ ⟨⟩
    exact MailPreview.inRange_ofMail mail
  case scrollMailUp n => exact h.mapMail fun _ hp => hp.scrollUp n
  case scrollMailDown n => exact h.mapMail fun p _ => p.inRange_scrollDown n
  case mailSaved =>
    split
    . exact ⟨h.bar, h.mail, h.picker, Iff.rfl, h.theme, h.highlight, h.scroll⟩
    . exact ⟨h.bar, h.mail, h.picker, h.notice, h.theme, h.highlight, h.scroll⟩
  case tick =>
    obtain hkept | hgone := expireNotice_cases { s with frame := s.frame + 1 } now
    . rw [hkept]
      exact ⟨h.bar, h.mail, h.picker, h.notice, h.theme, h.highlight, h.scroll⟩
    . rw [hgone]
      exact ⟨h.bar, h.mail, h.picker, Iff.rfl, h.theme, h.highlight, h.scroll⟩
  case menuPublished menu =>
    obtain ⟨_, hshown⟩ := s.showMenu_eq menu
    rw [hshown]
    exact ⟨h.bar, h.mail, h.picker, h.notice, h.theme, h.highlight, h.scroll⟩
  -- What is left touches none of the fields of the invariant.
  all_goals repeat' split
  all_goals exact ⟨h.bar, h.mail, h.picker, h.notice, h.theme, h.highlight, h.scroll⟩

end WellFormed

theorem Reachable.wellFormed {s : State} (h : Reachable s) : s.WellFormed := by
  induction h with
  | initial => exact .initial
  | new config catalog historyPath recents => exact .new config catalog historyPath recents
  | update _ now action ih => exact ih.update now action

theorem reachable_modes {s : State} (h : Reachable s) :
    (s.mode = .commandBar → s.bar.isSome) ∧
    (s.mode = .mailPreview → s.mail.isSome) ∧
    (s.mode = .themeSelection → ∃ p, s.picker = some p ∧ p.index < p.palettes.length) ∧
    (s.notice.isSome ↔ s.noticeDeadline.isSome) ∧
    s.theme = .ofName s.palette ∧
    ∀ p, s.mail = some p → p.scroll ≤ p.lines.length - 1 := by
  have hw := h.wellFormed
  refine ⟨hw.bar, hw.mail, ?_, hw.notice, hw.theme, hw.scroll⟩
  intro hmode
  obtain ⟨p, hp⟩ := Option.isSome_iff_exists.mp (hw.picker hmode)
  exact ⟨p, hp, hw.highlight p hp⟩

theorem reachable_modes_interrupted :
    let s := (initial.update 0 .enterThemeSelection).state
    let t := (s.update 0 (.mailGenerated "a\nb\nc")).state
    let u := (t.update 0 (.scrollMailDown 10)).state
    Reachable u ∧ u.mode = .mailPreview ∧ u.mail.isSome ∧ u.picker.isSome ∧
      u.mail = some ⟨"a\nb\nc", 2⟩ ∧ 2 ≤ (MailPreview.mk "a\nb\nc" 2).lines.length - 1 := by
  intro s t u
  have hu : Reachable u := ((Reachable.initial.update 0 _).update 0 _).update 0 _
  have hscrolled : u.mail = some ⟨"a\nb\nc", 2⟩ := by decide +kernel
  obtain ⟨_, hmail, _, _, _, hscroll⟩ := reachable_modes hu
  exact ⟨hu, rfl, hmail rfl, rfl, hscrolled, hscroll _ hscrolled⟩

end State
end WeekMenu

import WeekMenu.History
import WeekMenu.State.Basic

/-!
This module contains the effect of an action on the state, and what the state asks for in turn.
-/

namespace WeekMenu

/--
The state after an action. `request` is what it asks its surroundings to do, and `history` holds the
remembered commands if their file is to be written.
-/
structure Reaction where
  state : State
  request : Option Request
  history : Option (List String)

namespace State

def noticeTime : Nat := 3000

def generatingMail : String := "Generating mail"

def savingMail : String := "Saving mail"

def openBar (s : State) (text : String) : State :=
  { s with bar := some (.opened text (s.suggest text)), mode := .commandBar }

def replaceText (s : State) (text : String) : State :=
  { s with bar := s.bar.map (·.setText text (s.suggest text)) }

def showRecent (s : State) (index : Nat) : State :=
  match s.recents[index]? with
  | none => s
  | some command =>
    let s := s.replaceText command
    { s with bar := s.bar.map fun b => { b with historyIndex := some index } }

def typeKey (s : State) (key : Key) : State :=
  { s with bar := s.bar.map fun b =>
      let input := b.input.input key
      { input, suggestions := s.suggest input.text, selected := none, historyIndex := none } }

def historyPrev (s : State) : State :=
  match s.bar.bind (·.historyIndex) with
  | none => s.showRecent 0
  | some i => s.showRecent (i + 1)

def historyNext (s : State) : State :=
  match s.bar.bind (·.historyIndex) with
  | none => s
  | some 0 => s.replaceText ""
  | some (i + 1) => s.showRecent i

def notify (s : State) (now : Nat) (message : String) : State :=
  { s with notice := some message, noticeDeadline := some (now + noticeTime) }

def expireNotice (s : State) (now : Nat) : State :=
  match s.noticeDeadline with
  | some deadline =>
    if deadline ≤ now then { s with notice := none, noticeDeadline := none } else s
  | none => s

def cancel (s : State) : State :=
  { s with mode := .normal, bar := none, trouble := none, mail := none, picker := none }

def confirmTheme (s : State) : State :=
  let s := match s.picker.bind (·.selected?) with
    | some palette => { s with palette, theme := .ofName palette }
    | none => s
  { s with picker := none, mode := .normal }

def commandDone (s : State) (now : Nat) (command : String) (outcome : Outcome) : Reaction :=
  match Trouble.ofOutcome? s.days outcome with
  | some trouble => ⟨{ s with trouble := some trouble }, none, none⟩
  | none =>
    let recents := History.remember s.recents command
    let isBlank := (Text.trim command).isEmpty
    let s := { s.notify now outcome.message with trouble := none, recents }
    ⟨s, none, if isBlank then none else some recents⟩

def showMenu (s : State) (menu : Option Grid) : State :=
  let s := { s with menu, summary := .ofMenu menu }
  match menu with
  | some g => { s with cursor := s.cursor.clamp g.dayCount }
  | none => s

def update (s : State) (now : Nat) (action : Action) : Reaction :=
  let become (s : State) : Reaction := ⟨s, none, none⟩
  let ask (s : State) (request : Option Request) : Reaction := ⟨s, request, none⟩
  match action with
  | .moveLeft => become { s with cursor := s.cursor.left s.dayCount }
  | .moveRight => become { s with cursor := s.cursor.right s.dayCount }
  | .moveUp => become { s with cursor := s.cursor.flip }
  | .moveDown => become { s with cursor := s.cursor.flip }
  | .selectSlot day zone =>
    become (if day < s.dayCount then { s with cursor := ⟨day, zone⟩ } else s)
  | .clearSelectedSlot => ask s (s.slotAddress?.map fun slot => .execute (slot ++ "-clear"))
  | .editSelectedSlot kind =>
    match s.slotAddress? with
    | some slot => become (s.openBar (slot ++ "-" ++ kind.token ++ " "))
    | none => become s
  | .generateMail =>
    if s.mode = .normal then
      ask { s with tasks := s.tasks ++ [generatingMail] } (some .generateMail)
    else
      become s
  | .enterCommandBar text => become (s.openBar (text.getD ""))
  | .textInput key => become (s.typeKey key)
  | .suggestionNext => become { s with bar := s.bar.map (·.selectNext) }
  | .suggestionPrev => become { s with bar := s.bar.map (·.selectPrev) }
  | .acceptSuggestion =>
    match s.bar.bind (·.accepted?) with
    | some text => become (s.replaceText text)
    | none => become s
  | .historyPrev => become s.historyPrev
  | .historyNext => become s.historyNext
  | .submitCommand =>
    match s.bar with
    | none => become s
    | some b =>
      let text := Text.trim b.text
      ask { s with bar := none, mode := .normal }
        (if text.isEmpty then none else some (.execute text))
  | .commandExecuted command outcome => s.commandDone now command outcome
  | .cancelMode => become s.cancel
  | .toggleHelp => become { s with mode := if s.mode = .help then .normal else .help }
  | .enterThemeSelection =>
    become { s with mode := .themeSelection, picker := some (.startingAt s.palette) }
  | .selectThemeNext => become { s with picker := s.picker.map (·.next) }
  | .selectThemePrev => become { s with picker := s.picker.map (·.prev) }
  | .confirmThemeSelection => become s.confirmTheme
  | .mailGenerated mail =>
    become { s with
      tasks := s.tasks.filter (· != generatingMail)
      mail := some (.ofMail mail)
      mode := .mailPreview }
  | .scrollMailUp n => become { s with mail := s.mail.map (·.scrollUp n) }
  | .scrollMailDown n => become { s with mail := s.mail.map (·.scrollDown n) }
  | .saveMail =>
    match s.mail with
    | some p =>
      if s.mode = .mailPreview then
        ask { s with tasks := s.tasks ++ [savingMail] } (some (.saveMail p.content))
      else
        become s
    | none => become s
  | .mailSaved result =>
    let s := { s with tasks := s.tasks.filter (· != savingMail) }
    match result with
    | .ok path => become (s.notify now ("Mail saved to " ++ path))
    | .error cause =>
      become { s with trouble := some (.ofFailure ("Failed to save mail: " ++ cause)) }
  | .quit => become { s with quitting := true }
  | .tick => become ({ s with frame := s.frame + 1 }.expireNotice now)
  | .menuPublished menu => become (s.showMenu menu)
  | .externalChange => ask s (some .reloadMenu)
  | .errorOccurred message =>
    become { s with tasks := [], trouble := some (.ofFailure message) }
  | .resize _ _ => become s

end State
end WeekMenu

import WeekMenu.Screen.Layout
import WeekMenu.State.Basic

/-!
This module contains the action that a report of the terminal stands for, which depends on what the
user is doing.
-/

namespace WeekMenu
namespace State

def barAction (key : Key) : Action :=
  match key.code with
  | .esc => .cancelMode
  | .enter => .submitCommand
  | .tab => .acceptSuggestion
  | .down => .suggestionNext
  | .up => .suggestionPrev
  | .backTab => .suggestionPrev
  | .char 'p' => if key.mods.control then .historyPrev else .textInput key
  | .char 'n' => if key.mods.control then .historyNext else .textInput key
  | _ => .textInput key

def helpAction? (key : Key) : Option Action :=
  match key.code with
  | .esc => some .toggleHelp
  | .char 'q' => some .toggleHelp
  | .char '?' => some .toggleHelp
  | _ => none

def mailAction? (key : Key) : Option Action :=
  match key.code with
  | .esc => some .cancelMode
  | .char 'q' => some .cancelMode
  | .char 'j' => some (.scrollMailDown 1)
  | .down => some (.scrollMailDown 1)
  | .char 'k' => some (.scrollMailUp 1)
  | .up => some (.scrollMailUp 1)
  | .pageDown => some (.scrollMailDown 10)
  | .char ' ' => some (.scrollMailDown 10)
  | .pageUp => some (.scrollMailUp 10)
  | .char 'w' => some .saveMail
  | _ => none

def themeAction? (key : Key) : Option Action :=
  match key.code with
  | .esc => some .cancelMode
  | .char 'q' => some .cancelMode
  | .char 'j' => some .selectThemeNext
  | .down => some .selectThemeNext
  | .char 'k' => some .selectThemePrev
  | .up => some .selectThemePrev
  | .enter => some .confirmThemeSelection
  | _ => none

def normalAction? (s : State) (key : Key) : Option Action :=
  if key.code = .esc ∧ s.trouble.isSome then
    some .cancelMode
  else
    match s.keymap.action? key with
    | some (.editSelectedSlot kind) =>
      some (.editSelectedSlot (if key.code = .enter then s.editKind else kind))
    | action => action

def keyAction? (s : State) (key : Key) : Option Action :=
  match s.mode with
  | .commandBar => some (barAction key)
  | .help => helpAction? key
  | .mailPreview => mailAction? key
  | .themeSelection => themeAction? key
  | .normal => s.normalAction? key

def mouseAction? (s : State) (width height : Nat) (motion : MouseMotion) (x y : Nat) :
    Option Action :=
  match s.mode, motion with
  | .mailPreview, .scrollDown => some (.scrollMailDown 1)
  | .mailPreview, .scrollUp => some (.scrollMailUp 1)
  | .normal, .scrollUp => some .moveLeft
  | .normal, .scrollDown => some .moveRight
  | .normal, .leftDown =>
    let grid := (Screen.Layout.ofArea ⟨0, 0, width, height⟩).grid
    (Screen.slotAt grid s.dayCount x y).map fun (day, zone) => .selectSlot day zone
  | _, _ => none

def action? (s : State) (width height : Nat) : Event → Option Action
  | .key key => if key.motion = .release then none else s.keyAction? key
  | .mouse motion x y => s.mouseAction? width height motion x y
  | .resize width height => some (.resize width height)
  | .paste _ => none
  | .focus _ => none

end State
end WeekMenu

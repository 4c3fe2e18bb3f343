import WeekMenu.Command.Outcome
import WeekMenu.Menu.Basic
import WeekMenu.Terminal.Key

/-!
This module contains the actions that change the state of the program, and the requests that the
state makes of its surroundings.
-/

namespace WeekMenu

inductive Action where
  | tick
  | resize (width height : Nat)
  | quit
  | moveLeft
  | moveRight
  | moveUp
  | moveDown
  | selectSlot (day : Nat) (zone : Zone)
  | clearSelectedSlot
  | editSelectedSlot (kind : SlotKind)
  | generateMail
  | saveMail
  | enterCommandBar (text : Option String)
  | textInput (key : Key)
  | suggestionNext
  | suggestionPrev
  | acceptSuggestion
  | historyPrev
  | historyNext
  | submitCommand
  | cancelMode
  | toggleHelp
  | enterThemeSelection
  | selectThemeNext
  | selectThemePrev
  | confirmThemeSelection
  | scrollMailUp (lines : Nat)
  | scrollMailDown (lines : Nat)
  | commandExecuted (command : String) (outcome : Outcome)
  | menuPublished (grid : Option Grid)
  | mailGenerated (mail : String)
  | mailSaved (result : Except String String)
  | externalChange
  | errorOccurred (message : String)

inductive Request where
  | execute (command : String)
  | reloadMenu
  | generateMail
  | saveMail (mail : String)
  deriving DecidableEq, Repr

end WeekMenu

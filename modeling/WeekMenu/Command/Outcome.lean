import WeekMenu.Command.Basic

/-!
This module contains the outcome of a command: why one is rejected, and what the user is told.
-/

namespace WeekMenu

inductive Rejection where
  | uninitialized
  | generationUnavailable
  | unknownDay (token : String)
  | upperZoneFirst (label : String)
  | ambiguousMeal (query : String)
  | mealNotFound (query : String)
  | invalidSyntax
  deriving DecidableEq, Repr, Inhabited

def Rejection.message : Rejection → String
  | .uninitialized => "Menu data is not initialized."
  | .generationUnavailable => "Generation feature is not available."
  | .unknownDay token => s!"Unknown day \"{token}\"."
  | .upperZoneFirst label => s!"Configure the upper zone for {label} before using the lower zone."
  | .ambiguousMeal query => s!"Multiple sandwiches match \"{query}\". Please be more specific."
  | .mealNotFound query => s!"Sandwich \"{query}\" was not found in the meal list."
  | .invalidSyntax => "Invalid command. Use day-zone-type value or day-zone-clear."

inductive Outcome where
  | accepted (message : String)
  | rejected (reason : Rejection)
  | failed (message : String)
  deriving DecidableEq, Repr, Inhabited

namespace Outcome

def success : Outcome → Bool
  | .accepted _ => true
  | .rejected _ => false
  | .failed _ => false

def message : Outcome → String
  | .accepted message => message
  | .rejected reason => reason.message
  | .failed message => message

def rejection? : Outcome → Option Rejection
  | .accepted _ => none
  | .rejected reason => some reason
  | .failed _ => none

end Outcome
end WeekMenu

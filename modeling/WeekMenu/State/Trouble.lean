import WeekMenu.Hint

/-!
This module contains the trouble that the user is told about: what went wrong, how bad it is, and
what can be done about it.
-/

namespace WeekMenu

inductive Severity where
  | info
  | warning
  | error
  deriving DecidableEq, Repr, Inhabited

structure Trouble where
  message : String
  severity : Severity
  hints : List String
  deriving DecidableEq, Repr, Inhabited

namespace Trouble

def ofRejection (days : DayTable) (reason : Rejection) : Trouble where
  message := reason.message
  severity := .warning
  hints := Hint.forRejection days reason

def ofFailure (message : String) : Trouble where
  message := message
  severity := .error
  hints := Hint.forMessage message

def ofOutcome? (days : DayTable) : Outcome → Option Trouble
  | .accepted _ => none
  | .rejected reason => some (ofRejection days reason)
  | .failed message => some ⟨message, .warning, []⟩

end Trouble
end WeekMenu

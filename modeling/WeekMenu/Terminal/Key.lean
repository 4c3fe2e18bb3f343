/-!
This module contains what a terminal reports: keys, the mouse, and changes of the terminal itself.
-/

namespace WeekMenu

inductive KeyCode where
  | char (c : Char)
  | enter
  | esc
  | tab
  | backTab
  | left
  | right
  | up
  | down
  | home
  | pageUp
  | pageDown
  | delete
  | backspace
  | insert
  | null
  -- the key named End
  | finish
  | function (n : Nat)
  deriving DecidableEq, Repr, Inhabited

structure Modifiers where
  control : Bool
  alt : Bool
  shift : Bool
  deriving DecidableEq, Repr, Inhabited

def Modifiers.none : Modifiers := ⟨false, false, false⟩

inductive KeyMotion where
  | press
  | repetition
  | release
  deriving DecidableEq, Repr, Inhabited

structure Key where
  code : KeyCode
  mods : Modifiers
  motion : KeyMotion
  deriving DecidableEq, Repr, Inhabited

def Key.plain (code : KeyCode) : Key := ⟨code, .none, .press⟩

inductive MouseMotion where
  | leftDown
  | scrollUp
  | scrollDown
  | other
  deriving DecidableEq, Repr, Inhabited

inductive Event where
  | key (key : Key)
  | mouse (motion : MouseMotion) (x y : Nat)
  | resize (width height : Nat)
  | paste (text : String)
  | focus (gained : Bool)
  deriving DecidableEq, Repr, Inhabited

end WeekMenu

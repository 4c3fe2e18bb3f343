import WeekMenu.State.Basic

/-!
This module contains the keys that the footer offers, which depend on what the user is doing.
-/

namespace WeekMenu

structure KeyHint where
  keys : String
  label : String
  active : Bool
  deriving DecidableEq, Repr

namespace KeyHint

def plain (keys label : String) : KeyHint := ⟨keys, label, false⟩

def room (h : KeyHint) : Nat :=
  h.keys.utf8ByteSize + h.label.utf8ByteSize + 4

end KeyHint

structure HintGroup where
  title : String
  hints : List KeyHint
  deriving DecidableEq, Repr

namespace HintGroup

def ofWeek (s : State) : List HintGroup :=
  let isSet := ((s.menu.bind (·.slot? s.cursor.day s.cursor.zone)).any fun e => !e.isUnset)
  [⟨"NAV", [.plain "h/l" "day", .plain "j/k" "zone"]⟩,
    ⟨"SLOT", [.plain "s" "sandwich", .plain "t" "text", ⟨"x", "clear", isSet⟩,
      .plain ":" "command"]⟩,
    ⟨"WEEK", [⟨"m", "mail", s.menu.isSome⟩]⟩,
    ⟨"APP", [.plain "T" "theme", .plain "?" "help", .plain "q" "quit"]⟩]

def ofBar (s : State) : List HintGroup :=
  let offers := s.bar.any (!·.suggestions.isEmpty)
  [⟨"INPUT", [.plain "ENTER" "run", .plain "Esc" "cancel"]⟩,
    ⟨"COMPLETE", [⟨"Tab", "accept", offers⟩, .plain "↑/↓" "pick", .plain "^P/^N" "history"]⟩]

def ofState (s : State) : List HintGroup :=
  if s.trouble.isSome then
    [⟨"ERROR", [.plain "Esc" "dismiss"]⟩]
  else
    match s.mode with
    | .normal => ofWeek s
    | .commandBar => ofBar s
    | .mailPreview =>
      [⟨"MAIL", [.plain "j/k" "scroll", .plain "w" "save", .plain "Esc" "close"]⟩]
    | .themeSelection =>
      [⟨"THEME", [.plain "j/k" "move", .plain "ENTER" "apply", .plain "Esc" "cancel"]⟩]
    | .help => [⟨"HELP", [.plain "Esc/?" "close"]⟩]

end HintGroup
end WeekMenu

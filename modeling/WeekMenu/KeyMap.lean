import WeekMenu.State.Action
import WeekMenu.Text.Case

/-!
This module contains the keys of the normal mode and what they do: some built-in keys, further ones
for a profile, and those that the user names.
-/

namespace WeekMenu

structure KeyConfig where
  profile : String
  custom : Option (List (String × String))
  deriving DecidableEq, Repr

namespace KeyConfig

def standard : KeyConfig := ⟨"vim", none⟩

instance : Inhabited KeyConfig := ⟨standard⟩

end KeyConfig

structure Chord where
  code : KeyCode
  mods : Modifiers
  deriving DecidableEq, Repr, Inhabited

namespace Chord

def plain (code : KeyCode) : Chord := ⟨code, .none⟩

def ofKey (key : Key) : Chord :=
  match key.code with
  | .char c => ⟨.char c, { key.mods with shift := false }⟩
  | code => ⟨code, key.mods⟩

def functionNumber? (cs : List Char) : Option Nat :=
  let ds := match cs with
    | '+' :: rest => rest
    | _ => cs
  if ds.isEmpty || !ds.all Char.isDigit then
    none
  else
    let n := ds.foldl (fun k d => 10 * k + (d.toNat - '0'.toNat)) 0
    if n ≤ 255 then some n else none

def keyNames : List (String × KeyCode) :=
  [("enter", .enter), ("esc", .esc), ("tab", .tab), ("space", .char ' '), ("delete", .delete),
    ("backspace", .backspace), ("left", .left), ("right", .right), ("up", .up), ("down", .down)]

def code? (name : List Char) : Option KeyCode :=
  let lowered := Text.lowerChars name
  match keyNames.lookup (String.ofList lowered) with
  | some code => some code
  | none =>
    match lowered with
    | 'f' :: c :: rest => (functionNumber? (c :: rest)).map .function
    | _ =>
      match name with
      | [c] => some (.char c)
      | _ => none

def parse? (spec : String) : Option Chord :=
  let cs := spec.toList
  if "ctrl-".toList.isPrefixOf (Text.lowerChars cs) then
    (code? (cs.drop 5)).map fun code => ⟨code, { Modifiers.none with control := true }⟩
  else
    (code? cs).map plain

end Chord

def Action.byName : List (String × Action) :=
  [("quit", .quit), ("move_left", .moveLeft), ("move_right", .moveRight), ("move_up", .moveUp),
    ("move_down", .moveDown), ("command", .enterCommandBar none), ("clear", .clearSelectedSlot),
    ("set_sandwich", .editSelectedSlot .sandwich), ("set_text", .editSelectedSlot .text),
    ("mail", .generateMail), ("theme", .enterThemeSelection), ("help", .toggleHelp)]

structure KeyMap where
  bindings : List (Chord × Action)
  deriving Inhabited

namespace KeyMap

def bind (m : KeyMap) (chord : Chord) (action : Action) : KeyMap :=
  ⟨(chord, action) :: m.bindings.filter (·.1 != chord)⟩

def shared : List (KeyCode × Action) :=
  [(.char 'q', .quit), (.left, .moveLeft), (.right, .moveRight), (.up, .moveUp),
    (.down, .moveDown), (.char ':', .enterCommandBar none), (.char 'i', .enterCommandBar none),
    (.char 'x', .clearSelectedSlot), (.delete, .clearSelectedSlot),
    (.char 's', .editSelectedSlot .sandwich), (.char 't', .editSelectedSlot .text),
    (.enter, .editSelectedSlot .sandwich), (.char 'm', .generateMail),
    (.char 'T', .enterThemeSelection), (.char '?', .toggleHelp), (.esc, .cancelMode)]

def ofProfile (profile : String) : List (KeyCode × Action) :=
  if profile == "vim" then
    [(.char 'h', .moveLeft), (.char 'l', .moveRight), (.char 'k', .moveUp), (.char 'j', .moveDown)]
  else
    []

def builtIn (profile : String) : KeyMap :=
  (shared ++ ofProfile profile).foldl (fun m (code, action) => m.bind (.plain code) action) ⟨[]⟩

def bindCustom (m : KeyMap) (binding : String × String) : KeyMap :=
  match Chord.parse? binding.1, Action.byName.lookup binding.2 with
  | some chord, some action => m.bind chord action
  | _, _ => m

def ofConfig (config : KeyConfig) : KeyMap :=
  (config.custom.getD []).foldl bindCustom (builtIn config.profile)

def action? (m : KeyMap) (key : Key) : Option Action :=
  m.bindings.lookup (.ofKey key)

end KeyMap
end WeekMenu

import WeekMenu.Menu.Basic
import WeekMenu.Text.Blank
import WeekMenu.Text.Case

/-!
This module contains the commands that edit the menu and the text in which they are written:

* `generate` or `gen`,
* `<day>-<u|l>-<clear|empty|reset>`,
* `<day>-<u|l>-<s|t> <value>`.

Letter case does not matter outside the value. The day is a run of ASCII letters; whether there is
such a day is not a question of syntax.
-/

namespace WeekMenu

inductive SlotKind where
  | sandwich
  | text
  deriving DecidableEq, Repr, Inhabited

def SlotKind.token : SlotKind → String
  | .sandwich => "s"
  | .text => "t"

inductive Command where
  | generate
  | clear (day : String) (zone : Zone)
  | set (day : String) (zone : Zone) (kind : SlotKind) (value : String)
  deriving DecidableEq, Repr

def Zone.ofChars? (cs : List Char) : Option Zone :=
  match Text.lowerAscii cs with
  | ['u'] => some .upper
  | ['l'] => some .lower
  | _ => none

namespace Command

def clearWords : List String := ["clear", "empty", "reset"]

def generateWords : List String := ["generate", "gen"]

/--
The command that an action spells for the slot of the given day and zone. `none` stands for a
command without a value, which is not the same as an empty value.
-/
def ofAction? (day : String) (zone : Zone) (action : List Char) (value : Option (List Char)) :
    Option Command :=
  match Text.lowerAscii action, value with
  | action, none =>
    if clearWords.contains (String.ofList action) then some (.clear day zone) else none
  | ['s'], some (c :: cs) => some (.set day zone .sandwich (String.ofList (c :: cs)))
  | ['t'], some (c :: cs) => some (.set day zone .text (String.ofList (c :: cs)))
  | _, _ => none

def ofHead? (head : List Char) (value : Option (List Char)) : Option Command :=
  match Text.splitOn '-' head with
  | [day, zone, action] =>
    if day.isEmpty || !day.all Char.isAlpha then
      none
    else
      match Zone.ofChars? zone with
      | none => none
      | some zone => ofAction? (String.ofList day) zone action value
  | _ => none

def ofChars? (cs : List Char) : Option Command :=
  let cs := Text.trimChars cs
  if generateWords.contains (String.ofList (Text.lowerChars cs)) then
    some .generate
  else
    let (head, rest) := Text.splitFirstBlank cs
    let value := rest.map Text.trimChars
    if value.any fun v => v.contains '\n' || v.contains '\r' then
      none
    else
      ofHead? head value

def parse? (text : String) : Option Command :=
  ofChars? text.toList

def head (day : String) (zone : Zone) (action : String) : String :=
  day ++ "-" ++ zone.token ++ "-" ++ action

def print : Command → String
  | .generate => "generate"
  | .clear day zone => head day zone "clear"
  | .set day zone kind value => head day zone kind.token ++ " " ++ value

end Command
end WeekMenu

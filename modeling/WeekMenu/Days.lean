import WeekMenu.Text.Case

/-!
This module contains the day table: the labels of the days of a week and the short tokens by which
commands address them.
-/

namespace WeekMenu

structure DayTable where
  labels : List String
  aliases : List (String × String)
  deriving DecidableEq, Repr

namespace DayTable

def bundled : DayTable where
  labels := ["Lundi", "Mardi", "Mercredi", "Jeudi", "Vendredi", "PUB"]
  aliases := [
    ("l", "lundi"), ("lun", "lundi"), ("mon", "lundi"), ("monday", "lundi"),
    ("m", "mardi"), ("mar", "mardi"), ("tue", "mardi"), ("tuesday", "mardi"),
    ("me", "mercredi"), ("mer", "mercredi"), ("wed", "mercredi"), ("wednesday", "mercredi"),
    ("j", "jeudi"), ("jeu", "jeudi"), ("thu", "jeudi"), ("thursday", "jeudi"),
    ("v", "vendredi"), ("ven", "vendredi"), ("fri", "vendredi"), ("friday", "vendredi"),
    ("p", "pub")]

instance : Inhabited DayTable := ⟨bundled⟩

def dayCount (t : DayTable) : Nat :=
  t.labels.length

def label? (t : DayTable) (day : Nat) : Option String :=
  t.labels[day]?

def lowerLabels (t : DayTable) : List String :=
  t.labels.map Text.lower

def target (t : DayTable) (token : String) : String :=
  let token := Text.lower token
  (t.aliases.lookup token).getD token

def resolve (t : DayTable) (token : String) : Option Nat :=
  t.lowerLabels.findIdx? (· == t.target token)

def preferredTokens : List String :=
  ["mon", "tue", "wed", "thu", "fri", "sat", "sun", "pub"]

def liveTokens (t : DayTable) : List String :=
  ((t.aliases.filter fun (_, label) => t.lowerLabels.contains label).map (·.1)).eraseDups

def toFront : List String → List String → List String
  | [], rest => rest
  | token :: tokens, rest =>
    if rest.contains token then
      token :: toFront tokens (rest.erase token)
    else
      toFront tokens rest

def orderedTokens (t : DayTable) : List String :=
  let tokens := toFront preferredTokens t.liveTokens
  if tokens.isEmpty then t.lowerLabels.eraseDups else tokens

def tokenFor? (t : DayTable) (day : Nat) : Option String :=
  (t.label? day).map fun label =>
    let usable := t.orderedTokens.filter fun token => token.toList.all Char.isAlpha
    (usable.find? fun token => t.resolve token == some day).getD (Text.lower label)

end DayTable
end WeekMenu

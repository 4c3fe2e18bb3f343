import WeekMenu.Text.Case
import WeekMenu.Text.Decompose

/-!
This module contains the folding of a text, in which neither case nor accents count.
-/

namespace WeekMenu
namespace Text

def isAccent (c : Char) : Bool :=
  -- marks of other blocks are kept
  0x300 ≤ c.toNat && c.toNat ≤ 0x36F

def foldChars (cs : List Char) : List Char :=
  lowerChars ((decompose cs).filter (!isAccent ·))

def fold (s : String) : String :=
  String.ofList (foldChars s.toList)

end Text
end WeekMenu

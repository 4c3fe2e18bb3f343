import WeekMenu.Text.Case
import WeekMenu.Text.WidthTable

/-!
This module contains the columns that text takes on a terminal. A letter and the marks on it are
drawn in one place, so a text is cut into clusters before it is measured.
-/

namespace WeekMenu
namespace Text

def charWidth (c : Char) : Nat :=
  let n := c.toNat
  if n < 0x300 then 1
  else if inRanges zeroWidthRanges n then 0
  else if inRanges wideRanges n then 2
  else 1

def isControl (c : Char) : Bool :=
  c.toNat < 0x20 || (0x7F ≤ c.toNat && c.toNat < 0xA0)

def advance (c : Char) : Nat :=
  if isControl c then 0 else charWidth c

def layoutRanges : List (Nat × Nat) :=
  [(0x0, 0x1F), (0x7F, 0x9F), (0xAD, 0xAD), (0x61C, 0x61C), (0x180E, 0x180E), (0x200B, 0x200B),
    (0x200E, 0x200F), (0x2028, 0x202E), (0x2060, 0x206F), (0xFEFF, 0xFEFF), (0xFFF0, 0xFFFB),
    (0x13430, 0x1343F), (0x1BCA0, 0x1BCA3), (0x1D173, 0x1D17A), (0xE0000, 0xE001F),
    (0xE0080, 0xE00FF), (0xE01F0, 0xE0FFF)]

def standsAlone (c : Char) : Bool :=
  inRanges layoutRanges c.toNat

def joiner : Char := '\u200d'

def pictureSelector : Char := '\ufe0f'

def isFlagLetter (c : Char) : Bool :=
  0x1F1E6 ≤ c.toNat && c.toNat ≤ 0x1F1FF

def isTone (c : Char) : Bool :=
  0x1F3FB ≤ c.toNat && c.toNat ≤ 0x1F3FF

def joinsCluster (cluster : List Char) (c : Char) : Bool :=
  match cluster with
  | [] => true
  | last :: _ =>
    if standsAlone last || standsAlone c then
      last == '\r' && c == '\n'
    else
      charWidth c == 0 || isTone c || (last == joiner && charWidth c == 2) ||
        (isFlagLetter c && isFlagLetter last && (cluster.filter isFlagLetter).length % 2 == 1)

def clusters (cs : List Char) : List (List Char) :=
  go [] cs
where
  go (cluster : List Char) : List Char → List (List Char)
    | [] => if cluster.isEmpty then [] else [cluster.reverse]
    | c :: rest =>
      if joinsCluster cluster c then
        go (c :: cluster) rest
      else
        cluster.reverse :: go [c] rest

def clusterWidth (cluster : List Char) : Nat :=
  match cluster with
  | [] => 0
  | [c] => charWidth c
  | c :: rest =>
    if rest.contains pictureSelector || rest.any isTone || rest.any isFlagLetter then 2
    else if rest.contains joiner && charWidth c == 2 then 2
    else if c == '\r' then 1
    else cluster.foldl (fun n c => n + charWidth c) 0

def width (cs : List Char) : Nat :=
  (clusters cs).foldl (fun n cluster => n + clusterWidth cluster) 0

end Text
end WeekMenu

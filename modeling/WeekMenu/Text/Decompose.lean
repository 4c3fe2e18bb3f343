import WeekMenu.Text.Decompose.Letters
import WeekMenu.Text.Decompose.Ideographs
import WeekMenu.Text.Decompose.Marks

/-!
This module contains the canonical decomposition of a text: every character is replaced by what it
stands for, and the marks that follow a letter are put in order of their classes.
-/

namespace WeekMenu
namespace Text

namespace Decompose

def ideograph? (n : Nat) : Option Nat :=
  ideographRuns.findSome? fun (first, images) =>
    if first ≤ n then images[n - first]? else none

def syllable (n : Nat) : List Nat :=
  let index := n - 0xAC00
  let last := index % 28
  [0x1100 + index / 588, 0x1161 + index % 588 / 28] ++ if last = 0 then [] else [0x11A7 + last]

def letter? (n : Nat) : Option (List Nat) :=
  latin.lookup n <|> eastern.lookup n <|> latinAdditional.lookup n <|> greekExtended.lookup n <|>
    signs.lookup n

def codePoint (n : Nat) : List Nat :=
  if n < 0xC0 then
    [n]
  else if 0xAC00 ≤ n && n ≤ 0xD7A3 then
    syllable n
  else
    match letter? n with
    | some ns => ns
    | none => [(ideograph? n).getD n]

def markClass (c : Char) : Nat :=
  let n := c.toNat
  if n < 0x300 then
    0
  else
    match markClasses.find? fun (first, last, _) => first ≤ n && n ≤ last with
    | some (_, _, k) => k
    | none => 0

def insertMark (c : Char) : List Char → List Char
  | [] => [c]
  | d :: rest =>
    if 0 < markClass d && markClass d < markClass c then
      d :: insertMark c rest
    else
      c :: d :: rest

end Decompose

def decompose (cs : List Char) : List Char :=
  let parts := cs.flatMap fun c => (Decompose.codePoint c.toNat).map Char.ofNat
  parts.foldr Decompose.insertMark []

end Text
end WeekMenu

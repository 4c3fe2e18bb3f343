import WeekMenu.Text.Case.Table

/-!
This module contains the lower case of a text. Every character is lowered on its own except the
capital sigma, which becomes a final sigma at the end of a word.
-/

namespace WeekMenu
namespace Text

def inRanges (ranges : List (Nat × Nat)) (n : Nat) : Bool :=
  ranges.any fun (first, last) => first ≤ n && n ≤ last

def lowerChar (c : Char) : Char :=
  let n := c.toNat
  if n < 0x80 then
    c.toLower
  else
    match lowerRuns.find? fun (first, last, step, _) =>
        first ≤ n && n ≤ last && (n - first) % step == 0 with
    | some (first, _, _, image) => Char.ofNat (image + (n - first))
    | none => c

def meetsCased (cs : List Char) : Bool :=
  match cs.dropWhile (inRanges caseIgnorableRanges ·.toNat) with
  | [] => false
  | c :: _ => inRanges casedRanges c.toNat

def lowerChars (cs : List Char) : List Char :=
  go [] cs
where
  /-- Lower the text that follows the characters `before`, which are kept in reverse. -/
  go (before : List Char) : List Char → List Char
    | [] => []
    | c :: rest =>
      let lowered :=
        if c = 'Σ' then
          [if meetsCased before && !meetsCased rest then 'ς' else 'σ']
        else if c = 'İ' then
          ['i', '\u0307']
        else
          [lowerChar c]
      lowered ++ go (c :: before) rest

def lower (s : String) : String :=
  String.ofList (lowerChars s.toList)

def lowerAscii (cs : List Char) : List Char :=
  cs.map Char.toLower

end Text
end WeekMenu

/-!
This module contains the blank characters and the operations on text that look for them: trimming,
splitting off the first word and putting words one space apart.
-/

namespace WeekMenu
namespace Text

/--
The characters with the Unicode property `White_Space`. A zero width space is not among them.
-/
def isBlank (c : Char) : Bool :=
  let n := c.toNat
  (9 ≤ n && n ≤ 13) || n == 0x20 || n == 0x85 || n == 0xA0 || n == 0x1680 ||
    (0x2000 ≤ n && n ≤ 0x200A) || n == 0x2028 || n == 0x2029 || n == 0x202F || n == 0x205F ||
    n == 0x3000

def trimStart (cs : List Char) : List Char :=
  cs.dropWhile isBlank

def trimEnd (cs : List Char) : List Char :=
  (cs.reverse.dropWhile isBlank).reverse

def trimChars (cs : List Char) : List Char :=
  trimEnd (trimStart cs)

def trim (s : String) : String :=
  String.ofList (trimChars s.toList)

def splitFirstBlank (cs : List Char) : List Char × Option (List Char) :=
  match cs.dropWhile (!isBlank ·) with
  | [] => (cs, none)
  | _ :: rest => (cs.takeWhile (!isBlank ·), some rest)

def words (cs : List Char) : List (List Char) :=
  go [] cs
where
  go (word : List Char) : List Char → List (List Char)
    | [] => if word.isEmpty then [] else [word.reverse]
    | c :: rest =>
      if isBlank c then
        if word.isEmpty then go [] rest else word.reverse :: go [] rest
      else
        go (c :: word) rest

/--
Replace every run of blanks by a single space and drop the blanks at the start. A blank end of the
text leaves one space there.
-/
def collapseBlanks (cs : List Char) : List Char :=
  go true cs
where
  go (atBlank : Bool) : List Char → List Char
    | [] => []
    | c :: rest =>
      if isBlank c then
        if atBlank then go true rest else ' ' :: go true rest
      else
        c :: go false rest

def splitOn (sep : Char) : List Char → List (List Char)
  | [] => [[]]
  | c :: rest =>
    if c = sep then
      [] :: splitOn sep rest
    else
      match splitOn sep rest with
      | [] => [[c]]
      | part :: parts => (c :: part) :: parts

def occursIn (fragment : List Char) : List Char → Bool
  | [] => fragment.isEmpty
  | c :: rest => fragment.isPrefixOf (c :: rest) || occursIn fragment rest

end Text
end WeekMenu

/-!
This module contains the JSON text of lists of strings.
-/

namespace WeekMenu
namespace Json

def escapeChar (c : Char) : List Char :=
  match c with
  | '"' => ['\\', '"']
  | '\\' => ['\\', '\\']
  | '\x08' => ['\\', 'b']
  | '\x0c' => ['\\', 'f']
  | '\n' => ['\\', 'n']
  | '\r' => ['\\', 'r']
  | '\t' => ['\\', 't']
  | c =>
    if c.toNat < 0x20 then
      ['\\', 'u', '0', '0', if c.toNat < 0x10 then '0' else '1', Nat.digitChar (c.toNat % 16)]
    else
      [c]

def ofString (s : String) : List Char :=
  '"' :: s.toList.flatMap escapeChar ++ ['"']

def ofElements (elements : List (List Char)) : List Char :=
  '[' :: (elements.intersperse [',']).flatten ++ [']']

def ofRows (rows : List (List String)) : String :=
  String.ofList (ofElements (rows.map fun row => ofElements (row.map ofString)))

end Json
end WeekMenu

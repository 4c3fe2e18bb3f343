import WeekMenu.Text.Case
import WeekMenu.Text.PrintableTable

/-!
This module contains the quoted form of a text, in which a message shows a text exactly.
-/

namespace WeekMenu
namespace Text

def hexDigits (n : Nat) : List Char :=
  Nat.toDigits 16 n

def quoteChar (c : Char) : List Char :=
  match c with
  | '\x00' => ['\\', '0']
  | '\t' => ['\\', 't']
  | '\n' => ['\\', 'n']
  | '\r' => ['\\', 'r']
  | '"' => ['\\', '"']
  | '\\' => ['\\', '\\']
  | c =>
    let n := c.toNat
    if n < 0x20 || n == 0x7F || inRanges unprintableRanges n then
      ['\\', 'u', '\x7b'] ++ hexDigits n ++ ['\x7d']
    else
      [c]

def quoted (s : String) : String :=
  String.ofList ('"' :: s.toList.flatMap quoteChar ++ ['"'])

end Text
end WeekMenu

/-!
This module contains readers of JSON text. Each reader is made for one kind of value, so a text is
read and checked against the expected shape in one pass. Values that nobody asks for are skipped:
only their form is checked.
-/

namespace WeekMenu
namespace Json

/--
A reader takes a value off the front of a text and yields it with the rest of the text.
-/
abbrev Reader (α : Type) := List Char → Option (α × List Char)

def skipBlanks (cs : List Char) : List Char :=
  cs.dropWhile fun c => c == ' ' || c == '\n' || c == '\t' || c == '\r'

def expect (c : Char) (cs : List Char) : Option (List Char) :=
  match skipBlanks cs with
  | d :: rest => if c = d then some rest else none
  | [] => none

def hexValue? (c : Char) : Option Nat :=
  if '0' ≤ c ∧ c ≤ '9' then some (c.toNat - '0'.toNat)
  else if 'a' ≤ c ∧ c ≤ 'f' then some (c.toNat - 'a'.toNat + 10)
  else if 'A' ≤ c ∧ c ≤ 'F' then some (c.toNat - 'A'.toNat + 10)
  else none

def hexUnit? (a b c d : Char) : Option Nat := do
  return (((← hexValue? a) * 16 + (← hexValue? b)) * 16 + (← hexValue? c)) * 16 + (← hexValue? d)

def escaped? : Char → Option Char
  | '"' => some '"'
  | '\\' => some '\\'
  | '/' => some '/'
  | 'b' => some '\x08'
  | 'f' => some '\x0c'
  | 'n' => some '\n'
  | 'r' => some '\r'
  | 't' => some '\t'
  | _ => none

/--
The rest of a string after its opening quote. A character beyond the first 65536 is written as two
units; a unit of such a pair that stands alone is refused, and so is a bare control character.
-/
def stringRest : List Char → Option (List Char × List Char)
  | '"' :: rest => some ([], rest)
  | '\\' :: 'u' :: a :: b :: c :: d :: rest =>
    match hexUnit? a b c d with
    | none => none
    | some unit =>
      if 0xD800 ≤ unit ∧ unit ≤ 0xDBFF then
        match rest with
        | '\\' :: 'u' :: a' :: b' :: c' :: d' :: rest' =>
          match hexUnit? a' b' c' d' with
          | none => none
          | some low =>
            if 0xDC00 ≤ low ∧ low ≤ 0xDFFF then
              (stringRest rest').map fun (text, rest) =>
                (Char.ofNat (0x10000 + (unit - 0xD800) * 0x400 + (low - 0xDC00)) :: text, rest)
            else
              none
        | _ => none
      else if 0xDC00 ≤ unit ∧ unit ≤ 0xDFFF then
        none
      else
        (stringRest rest).map fun (text, rest) => (Char.ofNat unit :: text, rest)
  | '\\' :: e :: rest =>
    match escaped? e with
    | none => none
    | some c => (stringRest rest).map fun (text, rest) => (c :: text, rest)
  | c :: rest =>
    if c.toNat < 0x20 ∨ c = '\\' then
      none
    else
      (stringRest rest).map fun (text, rest) => (c :: text, rest)
  | [] => none

def string : Reader String := fun cs => do
  let (text, rest) ← stringRest (← expect '"' cs)
  return (String.ofList text, rest)

def word (w : String) (cs : List Char) : Option (List Char) :=
  if w.toList.isPrefixOf cs then some (cs.drop w.length) else none

def nullable (reader : Reader α) : Reader (Option α) := fun cs =>
  let cs := skipBlanks cs
  match word "null" cs with
  | some rest => some (none, rest)
  | none => (reader cs).map fun (a, rest) => (some a, rest)

/--
Read the rest of a list after its first `[` and first element: elements with commas between them
up to the closing bracket. Every element takes at least one character, so `fuel` may be the length
of the text.
-/
def elements (reader : Reader α) (fuel : Nat) : Reader (List α) := fun cs =>
  match fuel with
  | 0 => none
  | fuel + 1 =>
    match skipBlanks cs with
    | ']' :: rest => some ([], rest)
    | ',' :: rest =>
      match reader rest with
      | none => none
      | some (a, rest) => (elements reader fuel rest).map fun (as, rest) => (a :: as, rest)
    | _ => none

def array (reader : Reader α) : Reader (List α) := fun cs => do
  let cs ← expect '[' cs
  match skipBlanks cs with
  | ']' :: rest => return ([], rest)
  | cs =>
    let (a, cs) ← reader cs
    let (as, rest) ← elements reader (cs.length + 1) cs
    return (a :: as, rest)

def skipString : List Char → Option (List Char)
  | '"' :: rest => some rest
  | '\\' :: 'u' :: a :: b :: c :: d :: rest =>
    if (hexUnit? a b c d).isSome then skipString rest else none
  | '\\' :: e :: rest => if (escaped? e).isSome then skipString rest else none
  | c :: rest => if c.toNat < 0x20 ∨ c = '\\' then none else skipString rest
  | [] => none

def skipDigits (cs : List Char) : Option (List Char) :=
  match cs with
  | c :: rest => if c.isDigit then some (rest.dropWhile Char.isDigit) else none
  | [] => none

def skipExponent (cs : List Char) : Option (List Char) :=
  match cs with
  | c :: rest =>
    if c = 'e' ∨ c = 'E' then
      match rest with
      | s :: rest' => if s = '+' ∨ s = '-' then skipDigits rest' else skipDigits rest
      | [] => none
    else
      some cs
  | [] => some cs

def skipFraction (cs : List Char) : Option (List Char) :=
  match cs with
  | '.' :: rest => skipDigits rest >>= skipExponent
  | _ => skipExponent cs

def skipNumber (cs : List Char) : Option (List Char) :=
  let cs := match cs with
    | '-' :: rest => rest
    | _ => cs
  match cs with
  | '0' :: c :: rest => if c.isDigit then none else skipFraction (c :: rest)
  | ['0'] => some []
  | c :: _ => if c.isDigit then skipFraction (cs.dropWhile Char.isDigit) else none
  | [] => none

inductive Open where
  | array
  | object
  deriving DecidableEq, Repr

def skipKey (cs : List Char) : Option (List Char) := do
  expect ':' (← skipString (← expect '"' cs))

/--
Skip a value and whatever the open brackets around it still owe. The brackets are kept in a list,
so values may nest to any depth. In each step either a bracket is opened or a value ends, which
takes at least one character, so `fuel` may be the length of the text.
-/
def skipNested (fuel : Nat) (brackets : List Open) (cs : List Char) : Option (List Char) :=
  match fuel with
  | 0 => none
  | fuel + 1 =>
    match skipBlanks cs with
    | '[' :: rest =>
      match skipBlanks rest with
      | ']' :: rest => close fuel brackets rest
      | _ => skipNested fuel (.array :: brackets) rest
    | '\x7b' :: rest =>
      match skipBlanks rest with
      | '\x7d' :: rest => close fuel brackets rest
      | _ => skipKey rest >>= skipNested fuel (.object :: brackets)
    | '"' :: rest => skipString rest >>= close fuel brackets
    | cs =>
      match word "null" cs <|> word "true" cs <|> word "false" cs with
      | some rest => close fuel brackets rest
      | none => skipNumber cs >>= close fuel brackets
where
  close (fuel : Nat) (brackets : List Open) (cs : List Char) : Option (List Char) :=
    match fuel with
    | 0 => none
    | fuel + 1 =>
      match brackets with
      | [] => some cs
      | .array :: outer =>
        match skipBlanks cs with
        | ',' :: rest => skipNested fuel (.array :: outer) rest
        | ']' :: rest => close fuel outer rest
        | _ => none
      | .object :: outer =>
        match skipBlanks cs with
        | ',' :: rest => skipKey rest >>= skipNested fuel (.object :: outer)
        | '\x7d' :: rest => close fuel outer rest
        | _ => none

def skip (cs : List Char) : Option (List Char) :=
  skipNested (2 * cs.length + 2) [] cs

def member (keys : List String) : Reader (Option (String × String)) := fun cs => do
  let (key, cs) ← string cs
  let cs ← expect ':' cs
  if keys.contains key then
    let (value, rest) ← string cs
    return (some (key, value), rest)
  else
    return (none, ← skip cs)

def members (keys : List String) (fuel : Nat) : Reader (List (String × String)) := fun cs =>
  match fuel with
  | 0 => none
  | fuel + 1 =>
    match skipBlanks cs with
    | '\x7d' :: rest => some ([], rest)
    | ',' :: rest =>
      match member keys rest with
      | none => none
      | some (m, rest) =>
        (members keys fuel rest).map fun (ms, rest) => (m.toList ++ ms, rest)
    | _ => none

def record (keys : List String) : Reader (List (String × String)) := fun cs => do
  let cs ← expect '\x7b' cs
  match skipBlanks cs with
  | '\x7d' :: rest => return ([], rest)
  | cs =>
    let (m, cs) ← member keys cs
    let (ms, rest) ← members keys (cs.length + 1) cs
    let found := m.toList ++ ms
    if (found.map (·.1)).Nodup then
      return (found, rest)
    else
      none

def read (reader : Reader α) (text : String) : Option α :=
  match reader text.toList with
  | some (a, rest) => if (skipBlanks rest).isEmpty then some a else none
  | none => none

end Json
end WeekMenu

import WeekMenu.Toml.Basic
import WeekMenu.Toml.Scalar

/-!
This module contains the reader of TOML documents. A document that breaks a rule is refused as a
whole.
-/

namespace WeekMenu
namespace Toml

abbrev Reader (α : Type) := List Char → Option (α × List Char)

def skipSpaces (cs : List Char) : List Char :=
  cs.dropWhile fun c => c == ' ' || c == '\t'

def isPlain (c : Char) : Bool :=
  c == '\t' || (0x20 ≤ c.toNat && c.toNat != 0x7F)

def newline (cs : List Char) : Option (List Char) :=
  match cs with
  | '\n' :: rest => some rest
  | '\r' :: '\n' :: rest => some rest
  | _ => none

def skipComment (cs : List Char) : List Char :=
  match cs with
  | '#' :: rest => rest.dropWhile isPlain
  | _ => cs

def endOfLine (cs : List Char) : Option (List Char) :=
  match skipComment (skipSpaces cs) with
  | [] => some []
  | cs => newline cs

/--
Drop spaces, comments and ends of lines. Each step drops a character, so `fuel` may be the length
of the text.
-/
def skipLines (fuel : Nat) (cs : List Char) : List Char :=
  match fuel with
  | 0 => cs
  | fuel + 1 =>
    let cs := skipComment (skipSpaces cs)
    match newline cs with
    | some rest => skipLines fuel rest
    | none => cs

def hexChar (n : Nat) (cs : List Char) : Option (Char × List Char) := do
  let ds := cs.take n
  let values ← ds.mapM Json.hexValue?
  let k := values.foldl (fun k v => 16 * k + v) 0
  if ds.length = n ∧ k.isValidChar then
    some (Char.ofNat k, cs.drop n)
  else
    none

def escape (cs : List Char) : Option (Char × List Char) :=
  match cs with
  | 'b' :: rest => some ('\x08', rest)
  | 't' :: rest => some ('\t', rest)
  | 'n' :: rest => some ('\n', rest)
  | 'f' :: rest => some ('\x0c', rest)
  | 'r' :: rest => some ('\r', rest)
  | '"' :: rest => some ('"', rest)
  | '\\' :: rest => some ('\\', rest)
  | 'u' :: rest => hexChar 4 rest
  | 'U' :: rest => hexChar 8 rest
  | _ => none

def basicRest (fuel : Nat) : Reader (List Char) := fun cs =>
  match fuel, cs with
  | fuel + 1, '\\' :: rest =>
    match escape rest with
    | none => none
    | some (c, rest) => (basicRest fuel rest).map fun (text, rest) => (c :: text, rest)
  | _ + 1, '"' :: rest => some ([], rest)
  | fuel + 1, c :: rest =>
    if isPlain c then
      (basicRest fuel rest).map fun (text, rest) => (c :: text, rest)
    else
      none
  | _, _ => none

def literalRest : Reader (List Char)
  | '\'' :: rest => some ([], rest)
  | c :: rest =>
    if isPlain c then
      (literalRest rest).map fun (text, rest) => (c :: text, rest)
    else
      none
  | [] => none

def closing (quote : Char) (cs : List Char) : Option (List Char × List Char) :=
  let count := (cs.takeWhile (· == quote)).length
  if count < 3 then
    none
  else
    let taken := min count 5
    some (List.replicate (taken - 3) quote, cs.drop taken)

def skipBlankLines (fuel : Nat) (cs : List Char) : List Char :=
  match fuel with
  | 0 => cs
  | fuel + 1 =>
    let cs := skipSpaces cs
    match newline cs with
    | some rest => skipBlankLines fuel rest
    | none => cs

def continuation (cs : List Char) : Option (List Char) :=
  (newline (skipSpaces cs)).map fun rest => skipBlankLines (rest.length + 1) rest

def multilineRest (isLiteral : Bool) (fuel : Nat) : Reader (List Char) := fun cs =>
  match fuel with
  | 0 => none
  | fuel + 1 =>
    let quote := if isLiteral then '\'' else '"'
    match closing quote cs with
    | some found => some found
    | none =>
      match cs with
      | '\r' :: '\n' :: rest =>
        (multilineRest isLiteral fuel rest).map fun (text, rest) => ('\n' :: text, rest)
      | '\\' :: rest =>
        if isLiteral then
          (multilineRest isLiteral fuel rest).map fun (text, rest) => ('\\' :: text, rest)
        else
          match continuation rest with
          | some rest => multilineRest isLiteral fuel rest
          | none =>
            match escape rest with
            | none => none
            | some (c, rest) =>
              (multilineRest isLiteral fuel rest).map fun (text, rest) => (c :: text, rest)
      | c :: rest =>
        if isPlain c || c == '\n' then
          (multilineRest isLiteral fuel rest).map fun (text, rest) => (c :: text, rest)
        else
          none
      | [] => none

def string : Reader String := fun cs =>
  let fuel := cs.length + 1
  let found := match cs with
    | '"' :: '"' :: '"' :: rest => multilineRest false fuel ((newline rest).getD rest)
    | '\'' :: '\'' :: '\'' :: rest => multilineRest true fuel ((newline rest).getD rest)
    | '"' :: rest => basicRest fuel rest
    | '\'' :: rest => literalRest rest
    | _ => none
  found.map fun (text, rest) => (String.ofList text, rest)

def isBare (c : Char) : Bool :=
  c.isAlphanum || c == '_' || c == '-'

def keyPart : Reader String := fun cs =>
  match cs with
  | '"' :: rest => (basicRest (rest.length + 1) rest).map fun (k, rest) => (String.ofList k, rest)
  | '\'' :: rest => (literalRest rest).map fun (k, rest) => (String.ofList k, rest)
  | c :: _ =>
    if isBare c then
      some (String.ofList (cs.takeWhile isBare), cs.dropWhile isBare)
    else
      none
  | [] => none

def depthLimit : Nat := 80

def keyParts (fuel : Nat) : Reader (List String) := fun cs =>
  match fuel with
  | 0 => none
  | fuel + 1 =>
    match keyPart (skipSpaces cs) with
    | none => none
    | some (part, rest) =>
      match skipSpaces rest with
      | '.' :: rest => (keyParts fuel rest).map fun (parts, rest) => (part :: parts, rest)
      | rest => some ([part], rest)

def key : Reader (List String × String) := fun cs => do
  let (parts, rest) ← keyParts depthLimit cs
  return ((parts.dropLast, parts.getLastD ""), rest)

def arrayRest (value : Reader Value) (fuel : Nat) : Reader (List Value) := fun cs =>
  match fuel with
  | 0 => none
  | fuel + 1 =>
    match skipLines cs.length cs with
    | ']' :: rest => some ([], rest)
    | cs =>
      match value cs with
      | none => none
      | some (v, rest) =>
        match skipLines rest.length rest with
        | ']' :: rest => some ([v], rest)
        | ',' :: rest => (arrayRest value fuel rest).map fun (vs, rest) => (v :: vs, rest)
        | _ => none

def keyValue (value : Reader Value) : Reader ((List String × String) × Value) := fun cs => do
  let (k, cs) ← key cs
  let cs ← word "=" cs
  let (v, rest) ← value (skipSpaces cs)
  return ((k, v), rest)

def inlineRest (value : Reader Value) (fuel : Nat) (ms : Members) : Reader Members := fun cs =>
  match fuel with
  | 0 => none
  | fuel + 1 =>
    match keyValue value cs with
    | none => none
    | some (((path, k), v), rest) =>
      match ms.addDotted path k v with
      | none => none
      | some ms =>
        match skipSpaces rest with
        | '\x7d' :: rest => some (ms, rest)
        | ',' :: rest => inlineRest value fuel ms rest
        | _ => none

def value (depth : Nat) : Reader Value := fun cs =>
  match cs with
  | '"' :: _ => (string cs).map fun (s, rest) => (.text s, rest)
  | '\'' :: _ => (string cs).map fun (s, rest) => (.text s, rest)
  | '[' :: rest =>
    match depth with
    | 0 => none
    | depth + 1 =>
      (arrayRest (value depth) (rest.length + 1) rest).map fun (vs, rest) => (.array vs, rest)
  | '\x7b' :: rest =>
    match depth with
    | 0 => none
    | depth + 1 =>
      match skipSpaces rest with
      | '\x7d' :: rest => some (.table .inline [], rest)
      | rest =>
        (inlineRest (value depth) (rest.length + 1) [] rest).map fun (ms, rest) =>
          (.table .inline ms, rest)
  | _ =>
    match word "true" cs <|> word "false" cs <|> number cs with
    | some rest => some (.scalar, rest)
    | none => none

structure Progress where
  members : Members
  table : List String

def header (p : Progress) : Reader Progress := fun cs =>
  match cs with
  | '[' :: rest => do
    let ((path, k), rest) ← key rest
    let rest ← word "]]" rest
    return (⟨← p.members.addToTables path k, path ++ [k]⟩, rest)
  | _ => do
    let ((path, k), rest) ← key cs
    let rest ← word "]" rest
    return (⟨← p.members.addTable path k, path ++ [k]⟩, rest)

def assignment (p : Progress) : Reader Progress := fun cs => do
  let (((path, k), v), rest) ← keyValue (value depthLimit) cs
  let members ← p.members.change false (fun _ inner => inner.addDotted path k v) p.table .header
  return ({ p with members }, rest)

def lines (fuel : Nat) (p : Progress) (cs : List Char) : Option Members :=
  match fuel with
  | 0 => none
  | fuel + 1 =>
    match skipLines cs.length cs with
    | [] => some p.members
    | '[' :: rest => do
      let (p, rest) ← header p rest
      lines fuel p (← endOfLine rest)
    | cs => do
      let (p, rest) ← assignment p cs
      lines fuel p (← endOfLine rest)

def document? (text : String) : Option Members :=
  let cs := match text.toList with
    | '\uFEFF' :: rest => rest
    | cs => cs
  lines (cs.length + 1) ⟨[], []⟩ cs

end Toml
end WeekMenu

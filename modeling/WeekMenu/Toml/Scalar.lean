import WeekMenu.Json.Reader

/-!
This module contains the form of numbers and dates in TOML. Each function takes one such value off
the front of a text and yields the rest.
-/

namespace WeekMenu
namespace Toml

def word (w : String) (cs : List Char) : Option (List Char) :=
  Json.word w cs

def digits (n : Nat) (cs : List Char) : Option (Nat × List Char) :=
  let ds := cs.take n
  if ds.length = n ∧ ds.all Char.isDigit then
    some (ds.foldl (fun k d => 10 * k + (d.toNat - '0'.toNat)) 0, cs.drop n)
  else
    none

def digitsIn (n first last : Nat) (cs : List Char) : Option (Nat × List Char) := do
  let (k, rest) ← digits n cs
  if first ≤ k ∧ k ≤ last then some (k, rest) else none

def daysInMonth (year month : Nat) : Nat :=
  if month = 2 then
    if year % 4 = 0 ∧ (year % 100 ≠ 0 ∨ year % 400 = 0) then 29 else 28
  else if month = 4 ∨ month = 6 ∨ month = 9 ∨ month = 11 then
    30
  else
    31

def date (cs : List Char) : Option (List Char) := do
  let (year, cs) ← digits 4 cs
  let (month, cs) ← digitsIn 2 1 12 (← word "-" cs)
  let (_, cs) ← digitsIn 2 1 (daysInMonth year month) (← word "-" cs)
  return cs

def time (cs : List Char) : Option (List Char) := do
  let (_, cs) ← digitsIn 2 0 23 cs
  let (_, cs) ← digitsIn 2 0 59 (← word ":" cs)
  let (_, cs) ← digitsIn 2 0 60 (← word ":" cs)
  match cs with
  | '.' :: rest => Json.skipDigits rest
  | _ => return cs

def offset (cs : List Char) : Option (List Char) :=
  match cs with
  | 'Z' :: rest => some rest
  | 'z' :: rest => some rest
  | c :: rest =>
    if c = '+' ∨ c = '-' then do
      let (_, rest) ← digitsIn 2 0 23 rest
      let (_, rest) ← digitsIn 2 0 59 (← word ":" rest)
      return rest
    else
      some cs
  | [] => some cs

def dateTime (cs : List Char) : Option (List Char) :=
  match date cs with
  | none => time cs
  | some rest =>
    match rest with
    | c :: rest' =>
      if c = 'T' ∨ c = 't' then time rest' >>= offset
      else if c = ' ' then
        match time rest' with
        | some rest' => offset rest'
        | none => some rest
      else some rest
    | [] => some rest

def digitRun (isDigit : Char → Bool) (cs : List Char) : Option (List Char × List Char) :=
  match cs with
  | c :: rest =>
    if isDigit c then
      let (ds, rest) := go rest
      some (c :: ds, rest)
    else
      none
  | [] => none
where
  go : List Char → List Char × List Char
    | [] => ([], [])
    | '_' :: d :: rest =>
      if isDigit d then
        let (ds, rest) := go rest
        (d :: ds, rest)
      else
        ([], '_' :: d :: rest)
    | c :: rest =>
      if isDigit c then
        let (ds, rest) := go rest
        (c :: ds, rest)
      else
        ([], c :: rest)

def ofDigits (base : Nat) (ds : List Char) : Nat :=
  ds.foldl (fun k d => base * k + (Json.hexValue? d).getD 0) 0

def largest : Nat := 0x7FFFFFFFFFFFFFFF

def basedInteger (base : Nat) (cs : List Char) : Option (List Char) := do
  let (ds, rest) ← digitRun (fun c => (Json.hexValue? c).any (· < base)) cs
  if ofDigits base ds ≤ largest then some rest else none

def exponent (cs : List Char) : Option (List Char) :=
  match cs with
  | e :: cs =>
    if e = 'e' ∨ e = 'E' then
      let cs := match cs with
        | '+' :: rest => rest
        | '-' :: rest => rest
        | _ => cs
      (digitRun Char.isDigit cs).map (·.2)
    else
      none
  | [] => none

def decimal (cs : List Char) : Option (List Char) := do
  let (isNegative, cs) := match cs with
    | '-' :: rest => (true, rest)
    | '+' :: rest => (false, rest)
    | _ => (false, cs)
  match word "inf" cs <|> word "nan" cs with
  | some rest => return rest
  | none =>
    let (ds, rest) ← match cs with
      | '0' :: rest => some (['0'], rest)
      | _ => digitRun Char.isDigit cs
    match rest with
    | '.' :: rest =>
      let (_, rest) ← digitRun Char.isDigit rest
      return (exponent rest).getD rest
    | _ =>
      match exponent rest with
      | some rest => return rest
      | none =>
        if ofDigits 10 ds ≤ largest + (if isNegative then 1 else 0) then return rest else none

def number (cs : List Char) : Option (List Char) :=
  match dateTime cs with
  | some rest => some rest
  | none =>
    match cs with
    | '0' :: 'x' :: rest => basedInteger 16 rest
    | '0' :: 'o' :: rest => basedInteger 8 rest
    | '0' :: 'b' :: rest => basedInteger 2 rest
    | _ => decimal cs

end Toml
end WeekMenu

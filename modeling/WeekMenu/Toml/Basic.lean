/-!
This module contains TOML documents and the rules by which their tables grow. A table may be added
to only in the way in which it was begun.
-/

namespace WeekMenu
namespace Toml

inductive Origin where
  | inline
  | header
  | implied
  | dotted
  deriving DecidableEq, Repr, Inhabited

/--
A value of a document. Of numbers, truth values and dates only the presence is kept.
-/
inductive Value where
  | text (s : String)
  | scalar
  | array (elements : List Value)
  | table (origin : Origin) (members : List (String × Value))
  | tables (elements : List (List (String × Value)))
  deriving Repr, Inhabited

abbrev Members := List (String × Value)

def Members.replace (ms : Members) (key : String) (v : Value) : Members :=
  ms.map fun m => if m.1 == key then (key, v) else m

/--
Change the table that a path leads to, which is created if need be. A path of a dotted key passes
only through tables that were begun by dotted keys or as parents of headers; a path of a header
passes through every table that has no braces, and through the last one of several tables.
-/
def Members.change (isDotted : Bool) (f : Origin → Members → Option Members) :
    List String → Origin → Members → Option Members
  | [], origin, ms => f origin ms
  | key :: rest, _, ms =>
    match ms.lookup key with
    | none =>
      let origin := if isDotted then Origin.dotted else .implied
      (change isDotted f rest origin []).map fun inner => ms ++ [(key, .table origin inner)]
    | some (.table .inline _) => none
    | some (.table origin inner) =>
      if isDotted && origin == .header then
        none
      else
        (change isDotted f rest origin inner).map fun inner => ms.replace key (.table origin inner)
    | some (.tables (t :: ts)) =>
      let all := t :: ts
      (change isDotted f rest .header (all.getLastD t)).map fun inner =>
        ms.replace key (.tables (all.dropLast ++ [inner]))
    | some _ => none

def Members.addDotted (path : List String) (key : String) (v : Value) (ms : Members) :
    Option Members :=
  ms.change true (fun origin inner =>
    if (origin == .dotted) == path.isEmpty || (inner.lookup key).isSome then
      none
    else
      some (inner ++ [(key, v)])) path .header

def Members.addTable (path : List String) (key : String) (ms : Members) : Option Members :=
  ms.change false (fun _ inner =>
    match inner.lookup key with
    | none => some (inner ++ [(key, .table .header [])])
    | some (.table .implied old) => some (inner.replace key (.table .header old))
    | some _ => none) path .header

def Members.addToTables (path : List String) (key : String) (ms : Members) : Option Members :=
  ms.change false (fun _ inner =>
    match inner.lookup key with
    | none => some (inner ++ [(key, .tables [[]])])
    | some (.tables ts) => some (inner.replace key (.tables (ts ++ [[]])))
    | some _ => none) path .header

def Value.text? : Value → Option String
  | .text s => some s
  | _ => none

def Value.elements? : Value → Option (List Value)
  | .array elements => some elements
  | .tables elements => some (elements.map (.table .header))
  | _ => none

def Value.members? : Value → Option Members
  | .table _ ms => some ms
  | _ => none

def Value.texts? (v : Value) : Option (List String) := do
  (← v.elements?).mapM Value.text?

end Toml
end WeekMenu

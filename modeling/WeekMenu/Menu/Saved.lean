import WeekMenu.Catalog
import WeekMenu.Json.Reader
import WeekMenu.Json.Writer

/-!
This module contains the saved form of a menu: a JSON list with the two names of each day. Reading
it back binds the names to the meals of the catalog again.
-/

namespace WeekMenu

def Entry.ofName (catalog : Catalog) (name : String) : Entry :=
  if name.isEmpty then
    .unset
  else
    match catalog.named? name with
    | some m => .meal m
    | none => .text name

def DayMenu.ofNames (catalog : Catalog) (row : List (Option String)) : DayMenu :=
  let entry (i : Nat) := Entry.ofName catalog ((row.getD i none).getD "")
  ⟨entry 0, entry 1⟩

namespace Grid

def ofNames (catalog : Catalog) (dayCount : Nat) (rows : List (List (Option String))) : Grid :=
  let days := (rows.take dayCount).map (DayMenu.ofNames catalog)
  ⟨days ++ List.replicate (dayCount - days.length) .empty⟩

def readNames? (text : String) : Option (List (List (Option String))) :=
  Json.read (Json.array (Json.array (Json.nullable Json.string))) text

def ofSaved (catalog : Catalog) (dayCount : Nat) (text : Option String) : Grid :=
  match text.bind readNames? with
  | some rows => ofNames catalog dayCount rows
  | none => empty dayCount

def toSaved (g : Grid) : String :=
  Json.ofRows g.names

end Grid
end WeekMenu

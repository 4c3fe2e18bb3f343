import WeekMenu.Json.Reader
import WeekMenu.Menu.Basic
import WeekMenu.Text.Blank
import WeekMenu.Text.Case

/-!
This module contains the catalog of known meals and the ways to find a meal in it: by its exact
name, by a fragment of its name, and by the words of a user, who has to single out one meal.
-/

namespace WeekMenu

structure Catalog where
  meals : List Meal
  deriving DecidableEq, Repr, Inhabited

namespace Catalog

inductive Match where
  | unique (meal : Meal)
  | ambiguous (count : Nat)
  | notFound
  deriving DecidableEq, Repr

def mentions (query : String) (m : Meal) : Bool :=
  Text.occursIn (Text.lower query).toList (Text.lower m.name).toList

def names (query : String) (m : Meal) : Bool :=
  Text.lower m.name == Text.lower query

def named? (c : Catalog) (name : String) : Option Meal :=
  c.meals.find? (·.name == name)

def lookup (c : Catalog) (query : String) : Match :=
  match c.meals.find? (names query) with
  | some m => .unique m
  | none =>
    match c.meals.filter (mentions query) with
    | [] => .notFound
    | [m] => .unique m
    | ms => .ambiguous ms.length

def search (c : Catalog) (fragment : String) : List Meal :=
  c.meals.filter (mentions fragment)

def readMeal : Json.Reader Meal := fun cs =>
  match Json.skipBlanks cs with
  | '[' :: _ => do
    match ← Json.array Json.string cs with
    | ([name], rest) => return (⟨name, ""⟩, rest)
    | ([name, image], rest) => return (⟨name, image⟩, rest)
    | _ => none
  | _ => do
    let (found, rest) ← Json.record ["name", "image"] cs
    let name ← found.lookup "name"
    return (⟨name, (found.lookup "image").getD ""⟩, rest)

def ofJson? (text : String) : Option Catalog :=
  (Json.read (Json.array readMeal) text).map Catalog.mk

def bundled : Catalog where
  meals := [
    ⟨"Jambon Beurre", "images/jambon-beurre.png"⟩,
    ⟨"Poulet Crudités", "images/poulet-crudites.png"⟩,
    ⟨"Thon Mayonnaise", "images/thon-mayonnaise.png"⟩,
    ⟨"Club Poulet", "images/club-poulet.png"⟩,
    ⟨"Végétarien", "images/vegetarien.png"⟩,
    ⟨"Chèvre Miel", "images/chevre-miel.png"⟩,
    ⟨"Saumon Fumé", "images/saumon-fume.png"⟩,
    ⟨"Croque Monsieur", "images/croque-monsieur.png"⟩,
    ⟨"Pan Bagnat", "images/pan-bagnat.png"⟩,
    ⟨"Wrap Poulet Curry", "images/wrap-poulet-curry.png"⟩,
    ⟨"Mozzarella Tomate", "images/mozzarella-tomate.png"⟩,
    ⟨"Pizza", "images/pizza.png"⟩]

end Catalog
end WeekMenu

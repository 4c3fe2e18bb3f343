import WeekMenu.Json.Reader
import WeekMenu.Text.Blank
import WeekMenu.Text.Fold

/-!
This module contains the table of ingredients, which describes meals in two languages.
-/

namespace WeekMenu

structure IngredientRow where
  name : String
  french : String
  english : String
  deriving DecidableEq, Repr, Inhabited

namespace IngredientRow

def pizza : IngredientRow := ⟨"Pizza", "Pizza", "Pizza"⟩

def missing (meal : String) : IngredientRow := ⟨"Not found:" ++ meal, "", ""⟩

def isPlaceholder (r : IngredientRow) : Bool :=
  r.name == "Pizza"

def ofColumns (columns : List String) : IngredientRow :=
  ⟨columns.getD 0 "", columns.getD 1 "", columns.getD 2 ""⟩

end IngredientRow

structure IngredientTable where
  rows : List IngredientRow
  deriving DecidableEq, Repr, Inhabited

namespace IngredientTable

def find (t : IngredientTable) (meal : String) : IngredientRow :=
  if Text.lower meal == "pizza" then
    .pizza
  else
    let needle := (Text.fold meal).toList
    let row := t.rows.find? fun row => Text.occursIn needle (Text.fold row.name).toList
    row.getD (.missing meal)

def ofJson? (text : String) : Option IngredientTable :=
  (Json.read (Json.array (Json.array Json.string)) text).map fun rows =>
    ⟨rows.map IngredientRow.ofColumns⟩

def bundled : IngredientTable where
  rows := [
    ⟨"Jambon Beurre", "baguette, jambon blanc, beurre doux", "baguette, cooked ham, butter"⟩,
    ⟨"Poulet Crudites", "poulet rôti, carottes râpées, salade, mayonnaise",
      "roast chicken, grated carrots, lettuce, mayonnaise"⟩,
    ⟨"Thon Mayonnaise", "thon, mayonnaise, oeuf dur, salade",
      "tuna, mayonnaise, boiled egg, lettuce"⟩,
    ⟨"Club Poulet", "pain de mie, poulet, bacon, tomate, salade",
      "sandwich bread, chicken, bacon, tomato, lettuce"⟩,
    ⟨"Vegetarien", "houmous, concombre, poivron grillé, roquette",
      "hummus, cucumber, grilled pepper, rocket"⟩,
    ⟨"Chevre Miel", "chèvre, miel, noix, salade", "goat cheese, honey, walnuts, lettuce"⟩,
    ⟨"Saumon Fume", "saumon fumé, fromage frais, aneth", "smoked salmon, cream cheese, dill"⟩,
    ⟨"Croque Monsieur", "pain de mie, jambon, emmental, béchamel",
      "sandwich bread, ham, emmental, bechamel"⟩,
    ⟨"Pan Bagnat", "thon, oeuf, olives, tomate, huile d'olive",
      "tuna, egg, olives, tomato, olive oil"⟩,
    ⟨"Wrap Poulet Curry", "tortilla, poulet au curry, salade, yaourt",
      "tortilla, curry chicken, lettuce, yoghurt"⟩,
    ⟨"Mozzarella Tomate", "mozzarella, tomate, basilic, pesto",
      "mozzarella, tomato, basil, pesto"⟩]

end IngredientTable
end WeekMenu

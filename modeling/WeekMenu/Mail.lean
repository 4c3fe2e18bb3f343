import WeekMenu.Ingredients
import WeekMenu.Menu.Basic

/-!
This module contains the weekly mail: a template in which the meals of the week are listed twice,
once in French and once in English.
-/

namespace WeekMenu
namespace Mail

def frenchMark : String := "\x7bfrançais\x7d"

def englishMark : String := "\x7banglais\x7d"

def meals (g : Grid) : List Meal :=
  go [] (g.entries.filterMap Entry.meal?)
where
  go (seen : List String) : List Meal → List Meal
    | [] => []
    | m :: rest =>
      if m.name.isEmpty || seen.contains m.name then
        go seen rest
      else
        m :: go (m.name :: seen) rest

def rows (g : Grid) (ingredients : IngredientTable) : List IngredientRow :=
  ((meals g).map fun m => ingredients.find m.name).filter (!·.isPlaceholder)

def list (column : IngredientRow → String) (rows : List IngredientRow) : String :=
  Text.trim (String.join (rows.map fun row => s!"- {row.name}: {column row}\n"))

def replaceFirst (mark replacement : List Char) : List Char → List Char
  | [] => if mark.isEmpty then replacement else []
  | c :: rest =>
    if mark.isPrefixOf (c :: rest) then
      replacement ++ (c :: rest).drop mark.length
    else
      c :: replaceFirst mark replacement rest

/--
The mail for a menu. The French list is put in first, and the English mark is looked for in the
result.
-/
def render (g : Grid) (ingredients : IngredientTable) (template : String) : String :=
  let rows := rows g ingredients
  let fill (mark replacement : String) := replaceFirst mark.toList replacement.toList
  String.ofList <| fill englishMark (list (·.english) rows) <|
    fill frenchMark (list (·.french) rows) template.toList

def bundledTemplate : String :=
  "Bonjour à tous,\n\nVoici les sandwichs de la semaine :\n" ++ frenchMark ++
  "\n\nHello everyone,\n\nHere are this week's sandwiches:\n" ++ englishMark ++
  "\n\nBon appétit !\n"

end Mail
end WeekMenu

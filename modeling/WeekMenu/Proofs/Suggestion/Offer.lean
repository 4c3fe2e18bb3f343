import WeekMenu.Proofs.Text.Blank
import WeekMenu.Suggestion

/-!
This module contains what a suggestion consists of, which its text does not tell: a command, a
completion, a hint at a value behind the head of a command, or a meal behind it.
-/

namespace WeekMenu
namespace Suggestion

def placeholder : SlotKind → String
  | .sandwich => sandwichHint
  | .text => textHint

inductive Offer where
  | command (text : String)
  | completion (c : Completion)
  | hint (head : String) (kind : SlotKind)
  | sandwich (head : String) (m : Meal)
  deriving DecidableEq, Repr

namespace Offer

def text : Offer → String
  | .command text => text
  | .completion c => c.text
  | .hint head kind => head ++ " " ++ placeholder kind
  | .sandwich head m => head ++ " " ++ m.name

def kept : Offer → String
  | .hint head _ => head ++ " "
  | o => o.text

end Offer

def offersAtStart (completions : List Completion) : List Offer :=
  let day := match completions with
    | [] => "mon"
    | c :: _ => String.ofList (c.head.toList.takeWhile (· != '-'))
  [.command "generate", .hint (Command.head day .upper "s") .sandwich,
    .hint (Command.head day .upper "t") .text, .command (Command.head day .upper "clear")]

def offersStartingWith (completions : List Completion) (start : String) : List Offer :=
  (completions.filter fun c => start.toList.isPrefixOf c.head.toList).map Offer.completion

def offersForHead (completions : List Completion) (head : String) : List Offer :=
  let start := Text.lower head
  ((generateWords start).map Offer.command ++ offersStartingWith completions start).take limit

def offersForValue (catalog : Catalog) (completions : List Completion) (head value : String) :
    List Offer :=
  let start := Text.lower head
  if !(generateWords start).isEmpty then
    [.command "generate"]
  else if !head.toList.contains '-' then
    (offersStartingWith completions start).take limit
  else
    let kind := String.ofList ((Text.splitOn '-' start.toList).getD 2 [])
    if kind == "s" then
      ((catalog.search value).take limit).map (Offer.sandwich head)
    else if kind == "t" && value.isEmpty then
      [.hint head .text]
    else if Command.clearWords.contains kind then
      [.command head]
    else
      []

def offers (days : DayTable) (catalog : Catalog) (text : String) : List Offer :=
  let completions := Completion.all days
  match Text.splitFirstBlank (Text.collapseBlanks text.toList) with
  | ([], _) => offersAtStart completions
  | (head, none) => offersForHead completions (String.ofList head)
  | (head, some value) =>
    offersForValue catalog completions (String.ofList head) (String.ofList value)

theorem map_text_offersAtStart (completions : List Completion) :
    (offersAtStart completions).map Offer.text = atStart completions := by
  rfl

theorem map_text_offersStartingWith (completions : List Completion) (start : String) :
    (offersStartingWith completions start).map Offer.text
      =
    Completion.startingWith completions start := by
  unfold offersStartingWith Completion.startingWith
  rw [List.map_map]
  rfl

theorem map_text_offersForHead (completions : List Completion) (head : String) :
    (offersForHead completions head).map Offer.text = forHead completions head := by
  have hwords : Offer.text ∘ Offer.command = id := rfl
  unfold offersForHead forHead
  dsimp only
  rw [List.map_take, List.map_append, List.map_map, map_text_offersStartingWith, hwords,
    List.map_id]

theorem map_text_offersForValue (catalog : Catalog) (completions : List Completion)
    (head value : String) :
    (offersForValue catalog completions head value).map Offer.text
      =
    forValue catalog completions head value := by
  unfold offersForValue forValue
  dsimp only
  split
  . rfl
  . split
    . rw [List.map_take, map_text_offersStartingWith]
    . split
      . rw [List.map_map]
        rfl
      . split
        . rfl
        . split <;> rfl

theorem map_text_offers (days : DayTable) (catalog : Catalog) (text : String) :
    (offers days catalog text).map Offer.text = suggest days catalog text := by
  unfold offers suggest
  dsimp only
  rcases Text.splitFirstBlank (Text.collapseBlanks text.toList) with ⟨_ | ⟨c, head⟩, _ | value⟩
  . apply map_text_offersAtStart
  . apply map_text_offersAtStart
  . apply map_text_offersForHead
  . apply map_text_offersForValue

section Sandwich

variable {completions : List Completion} {catalog : Catalog} {head h value start : String}
  {m : Meal}

theorem sandwich_not_mem_offersStartingWith :
    .sandwich head m ∉ offersStartingWith completions start := by
  simp [offersStartingWith]

theorem sandwich_not_mem_offersForHead : .sandwich head m ∉ offersForHead completions h := by
  intro hmem
  rcases List.mem_append.mp (List.mem_of_mem_take hmem) with hword | hstart
  . simp at hword
  . exact sandwich_not_mem_offersStartingWith hstart

theorem eq_of_sandwich_mem_offersForValue
    (hmem : .sandwich head m ∈ offersForValue catalog completions h value) : head = h := by
  unfold offersForValue at hmem
  dsimp only at hmem
  split at hmem
  . simp at hmem
  . split at hmem
    . exact absurd (List.mem_of_mem_take hmem) sandwich_not_mem_offersStartingWith
    . split at hmem
      . obtain ⟨_, _, heq⟩ := List.mem_map.mp hmem
        cases heq
        rfl
      . split at hmem
        . simp at hmem
        . split at hmem <;> simp at hmem

theorem not_blank_of_sandwich_mem {days : DayTable} {text : String}
    (hmem : .sandwich head m ∈ offers days catalog text) :
    ∀ c ∈ head.toList, Text.isBlank c = false := by
  unfold offers at hmem
  dsimp only at hmem
  obtain ⟨_, hsplit⟩ | ⟨word, _, rest, _, hword, _, hsplit⟩ :=
    Text.splitFirstBlank_cases (Text.collapseBlanks text.toList)
  . rw [hsplit] at hmem
    cases hcs : Text.collapseBlanks text.toList with
    | nil =>
      rw [hcs] at hmem
      simp [offersAtStart] at hmem
    | cons c cs =>
      rw [hcs] at hmem
      exact absurd hmem sandwich_not_mem_offersForHead
  . rw [hsplit] at hmem
    cases word with
    | nil => simp [offersAtStart] at hmem
    | cons c word =>
      rw [eq_of_sandwich_mem_offersForValue hmem, String.toList_ofList]
      exact hword

end Sandwich

end Suggestion
end WeekMenu

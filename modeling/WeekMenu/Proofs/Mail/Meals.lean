import WeekMenu.Proofs.Distinct
import WeekMenu.Proofs.Mail.Lines

/-!
This module contains what the mail lists: a line for each meal of the catalog, at its first place in
the week, in both languages. Nothing else of the menu comes into the mail.
-/

namespace WeekMenu
namespace Mail

def names (g : Grid) : List String :=
  ((g.entries.filterMap Entry.meal?).map (·.name)).filter (· != "")

theorem map_name_go (seen : List String) (ms : List Meal) :
    (meals.go seen ms).map (·.name)
      =
    ((ms.map (·.name)).filter fun name => name != "" && !seen.contains name).eraseDups := by
  induction ms generalizing seen with
  | nil => rfl
  | cons m rest ih =>
    rw [meals.go, List.map_cons]
    split
    . next hskip =>
      rw [ih, List.filter_cons_of_neg]
      rw [Bool.or_eq_true, String.isEmpty_iff] at hskip
      rcases hskip with hempty | hseen
      . simp [hempty]
      . simp only [hseen, Bool.not_true, Bool.and_false, Bool.false_eq_true, not_false_eq_true]
    . next hkeep =>
      rw [Bool.or_eq_true, String.isEmpty_iff, not_or] at hkeep
      rw [List.map_cons, ih, List.filter_cons_of_pos (by simpa using hkeep), List.eraseDups_cons,
        List.filter_filter]
      congr 2
      apply List.filter_congr
      intro name _
      rw [List.contains_cons, Bool.not_or, Bool.and_left_comm]

theorem map_name_meals (g : Grid) : (meals g).map (·.name) = (names g).eraseDups := by
  unfold meals names
  rw [map_name_go]
  simp

theorem rows_eq (g : Grid) (ingredients : IngredientTable) :
    rows g ingredients
      =
    ((names g).eraseDups.map ingredients.find).filter fun row => row.name ≠ "Pizza" := by
  unfold rows
  rw [← map_name_meals, List.map_map]
  apply List.filter_congr
  intro row _
  unfold IngredientRow.isPlaceholder
  rw [beq_eq_decide, decide_not]

theorem render_lists_meals (g : Grid) (ingredients : IngredientTable) :
    let kept := (names g).eraseDups
    let listed := (kept.map ingredients.find).filter fun row => row.name ≠ "Pizza"
    (kept.Nodup ∧ (∀ name, name ∈ kept ↔ name ∈ names g) ∧
      kept.Pairwise fun a b => (names g).idxOf a < (names g).idxOf b) ∧
    (∀ template, render g ingredients template = String.ofList
      (replaceFirst englishMark.toList (lines (·.english) listed)
        (replaceFirst frenchMark.toList (lines (·.french) listed) template.toList))) ∧
    ∀ g' : Grid, (names g').eraseDups = kept → ∀ template,
      render g' ingredients template = render g ingredients template := by
  intro kept listed
  have hrender (g : Grid) (template : String) : render g ingredients template = String.ofList
      (replaceFirst englishMark.toList (lines (·.english) (rows g ingredients))
        (replaceFirst frenchMark.toList (lines (·.french) (rows g ingredients))
          template.toList)) := by
    rw [← toList_list, ← toList_list]
    rfl
  have hlisted : rows g ingredients = listed := rows_eq g ingredients
  refine ⟨⟨?_, ?_, ?_⟩, ?_, ?_⟩
  . apply Distinct.nodup_eraseDups
  . intro name
    apply List.mem_eraseDups
  . apply Distinct.pairwise_idxOf_eraseDups
  . intro template
    rw [hrender, hlisted]
  . intro g' hkept template
    have hlisted' : rows g' ingredients = listed := by
      rw [rows_eq, hkept]
    rw [hrender, hrender, hlisted, hlisted']

theorem render_lists_meals_club :
    let g : Grid := ⟨[⟨.meal ⟨"Club", "club.png"⟩, .text "Soup"⟩, ⟨.meal ⟨"Pizza", ""⟩, .unset⟩,
      ⟨.meal ⟨"Tofu", ""⟩, .meal ⟨"Club", ""⟩⟩]⟩
    let g' : Grid := ⟨[⟨.text "Tofu", .meal ⟨"Club", ""⟩⟩,
      ⟨.meal ⟨"Pizza", ""⟩, .meal ⟨"Tofu", ""⟩⟩]⟩
    let ingredients : IngredientTable := ⟨[⟨"Club", "pain", "bread"⟩]⟩
    let template := "\x7banglais\x7d / \x7bfrançais\x7d"
    (names g').eraseDups = (names g).eraseDups ∧
    render g' ingredients template = render g ingredients template ∧
    render g ingredients template
      = "- Club: bread\n- Not found:Tofu: / - Club: pain\n- Not found:Tofu:" := by
  intro g g' ingredients template
  have hnames : (names g').eraseDups = (names g).eraseDups := by decide +kernel
  obtain ⟨_, _, hsame⟩ := render_lists_meals g ingredients
  exact ⟨hnames, hsame g' hnames template, by decide +kernel⟩

end Mail
end WeekMenu

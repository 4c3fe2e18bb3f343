import WeekMenu.Proofs.Text.Words
import WeekMenu.Suggestion

/-!
This module contains the proof that the suggestions do not depend on how the words of a text are
spaced, except for a blank at its end.
-/

namespace WeekMenu
namespace Suggestion

open Text

theorem suggest_congr {text text' : String}
    (h : collapseBlanks text.toList = collapseBlanks text'.toList) (days : DayTable)
    (catalog : Catalog) : suggest days catalog text = suggest days catalog text' := by
  unfold suggest
  dsimp only
  rw [h]

theorem suggest_spacing :
    (∀ cs, Collapsed cs (collapseBlanks cs) ∧
      collapseBlanks (collapseBlanks cs) = collapseBlanks cs ∧
      collapseBlanks cs = trimStart (collapseBlanks.go false cs)) ∧
    (∀ cs ds, collapseBlanks cs = collapseBlanks ds ↔
      words cs = words ds ∧ (words cs ≠ [] → endsBlank cs = endsBlank ds)) ∧
    ∀ (days : DayTable) (catalog : Catalog) (text text' : String),
      words text.toList = words text'.toList →
      endsBlank text.toList = endsBlank text'.toList →
      suggest days catalog text = suggest days catalog text' := by
  refine ⟨?_, fun _ _ => collapseBlanks_eq_iff, ?_⟩
  . intro cs
    exact ⟨collapsed_collapseBlanks cs, collapseBlanks_collapseBlanks cs, (trimStart_go cs).symm⟩
  . intro days catalog text text' hwords hend
    exact suggest_congr (collapseBlanks_eq_iff.mpr ⟨hwords, fun _ => hend⟩) days catalog

theorem suggest_spacing_wide :
    let text := "wed-u-s wrap poulet"
    let text' := " wed-u-s\t\u3000wrap\npoulet"
    words text.toList = words text'.toList ∧
    endsBlank text.toList = false ∧ endsBlank text'.toList = false ∧
    collapseBlanks text'.toList = text.toList ∧
    suggest .bundled .bundled text' = ["wed-u-s Wrap Poulet Curry"] ∧
    suggest .bundled .bundled text = suggest .bundled .bundled text' := by
  intro text text'
  have hwords : words text.toList = words text'.toList := by decide +kernel
  have hend : endsBlank text.toList = false := by decide +kernel
  have hend' : endsBlank text'.toList = false := by decide +kernel
  have hsame := suggest_spacing.2.2 .bundled .bundled text text' hwords (hend.trans hend'.symm)
  refine ⟨hwords, hend, hend', by decide +kernel, ?_, hsame⟩
  rw [← hsame]
  decide +kernel

end Suggestion
end WeekMenu

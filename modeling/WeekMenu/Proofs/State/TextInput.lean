import WeekMenu.State.TextInput

/-!
This module contains facts about the text that is being typed, as long as its one line is typed from
the start to the end.
-/

namespace WeekMenu
namespace TextInput

structure AtEnd (line : List Char) (t : TextInput) : Prop where
  above : t.above = []
  before : t.before = line.reverse
  after : t.after = []
  below : t.below = []

theorem atEnd_ofText (text : String) : (ofText text).AtEnd text.toList :=
  ⟨rfl, rfl, rfl, rfl⟩

namespace AtEnd

variable {line : List Char} {t : TextInput}

theorem text (h : t.AtEnd line) : t.text = String.ofList line := by
  unfold TextInput.text TextInput.lines TextInput.line
  rw [h.above, h.before, h.after, h.below, List.reverse_reverse]
  simp

theorem insert (h : t.AtEnd line) (c : Char) : (t.insert c).AtEnd (line ++ [c]) := by
  refine ⟨h.above, ?_, h.after, h.below⟩
  rw [List.reverse_concat, ← h.before]
  rfl

theorem scrolled (h : t.AtEnd line) (width height : Nat) :
    (t.scrolled width height).AtEnd line :=
  ⟨h.above, h.before, h.after, h.below⟩

end AtEnd

theorem text_ofText (text : String) : (ofText text).text = text := by
  rw [(atEnd_ofText text).text, String.ofList_toList]

theorem input_char (t : TextInput) {c : Char} (hfeed : c ≠ '\n') (hreturn : c ≠ '\r') :
    t.input (.plain (.char c)) = t.insert c := by
  have hbreak : ¬(c = '\n' ∨ c = '\r') := not_or.mpr ⟨hfeed, hreturn⟩
  unfold input Key.plain
  simp only [reduceCtorEq, if_false, Modifiers.none, Bool.false_eq_true, hbreak]

end TextInput
end WeekMenu

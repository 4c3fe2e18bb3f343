import Mathlib.Data.List.GetD
import WeekMenu.Proofs.State.WellFormed

/-!
This module contains copies of the state and of the text that is being typed. A copy has the lines
of the original. Its cursor is put to the place of the original one, which is told by two numbers of
sixteen binary digits, so that it gets elsewhere if the place has a larger number.
-/

namespace WeekMenu
namespace TextInput

section OfLines

variable (lines : List (List Char)) (row column : Nat)

theorem line_ofLines :
    (ofLines lines row column).line = lines.getD (min row (lines.length - 1)) [] := by
  unfold ofLines TextInput.line
  dsimp only
  rw [List.reverse_reverse, List.take_append_drop]

theorem row_ofLines : (ofLines lines row column).row = min row (lines.length - 1) := by
  unfold ofLines TextInput.row
  dsimp only
  rw [List.length_reverse, List.length_take]
  omega

theorem column_ofLines :
    (ofLines lines row column).column = min column (ofLines lines row column).line.length := by
  rw [line_ofLines]
  unfold ofLines TextInput.column
  dsimp only
  rw [List.length_reverse, List.length_take]

theorem lines_ofLines {lines : List (List Char)} (h : lines ≠ []) :
    (ofLines lines row column).lines = lines := by
  have hrow : min row (lines.length - 1) < lines.length := by
    have hpos := List.length_pos_iff.mpr h
    omega
  unfold TextInput.lines
  rw [line_ofLines, List.getD_eq_getElem lines [] hrow]
  unfold ofLines
  dsimp only
  rw [List.reverse_reverse, List.getElem_cons_drop hrow, List.take_append_drop]

end OfLines

theorem lines_ne_nil (t : TextInput) : t.lines ≠ [] := by
  unfold TextInput.lines
  simp

theorem row_lt_length (t : TextInput) : t.row < t.lines.length := by
  unfold TextInput.lines TextInput.row
  simp

theorem getD_lines_row (t : TextInput) : t.lines.getD t.row [] = t.line := by
  unfold TextInput.lines TextInput.row
  rw [← List.length_reverse, List.getD_append_right _ _ _ _ (Nat.le_refl _), Nat.sub_self]
  rfl

theorem column_le_length (t : TextInput) : t.column ≤ t.line.length := by
  unfold TextInput.column TextInput.line
  simp

theorem alike_iff {t u : TextInput} :
    t.alike u = true ↔ t.lines = u.lines ∧ t.row = u.row ∧ t.column = u.column := by
  unfold alike
  simp [and_assoc]

theorem eq_of_alike {t u : TextInput} (h : t.alike u = true) :
    u = { t with top := u.top, left := u.left } := by
  obtain ⟨hlines, hrow, hcolumn⟩ := alike_iff.mp h
  obtain ⟨habove, hrest⟩ := List.append_inj hlines (by simpa [TextInput.row] using hrow)
  obtain ⟨hline, hbelow⟩ := List.cons.inj hrest
  obtain ⟨hbefore, hafter⟩ := List.append_inj hline (by simpa [TextInput.column] using hcolumn)
  change (⟨u.above, u.before, u.after, u.below, u.top, u.left⟩ : TextInput) = _
  rw [← List.reverse_inj.mp habove, ← List.reverse_inj.mp hbefore, ← hafter, ← hbelow]

theorem column_ofText (cs : List Char) : (ofText (String.ofList cs)).column = cs.length := by
  unfold ofText TextInput.column
  rw [String.toList_ofList, List.length_reverse]

theorem copy_lines (t : TextInput) : t.copy.lines = t.lines :=
  lines_ofLines _ _ t.lines_ne_nil

theorem alike_copy_iff (t : TextInput) :
    t.alike t.copy = true ↔ t.row < 65536 ∧ t.column < 65536 := by
  have hlt := t.row_lt_length
  have hle := t.column_le_length
  unfold copy
  rw [alike_iff, lines_ofLines _ _ t.lines_ne_nil, row_ofLines, column_ofLines, line_ofLines]
  constructor
  . rintro ⟨_, hrow, hcolumn⟩
    omega
  . rintro ⟨hrow, hcolumn⟩
    have hkept : min (t.row % 65536) (t.lines.length - 1) = t.row := by omega
    rw [hkept, getD_lines_row]
    refine ⟨rfl, rfl, ?_⟩
    omega

theorem copy_eq_iff (t : TextInput) :
    t.copy = { t with top := 0, left := 0 } ↔ t.row < 65536 ∧ t.column < 65536 := by
  rw [← alike_copy_iff]
  constructor
  . intro h
    rw [h, alike_iff]
    exact ⟨rfl, rfl, rfl⟩
  . exact eq_of_alike

end TextInput

theorem CommandBar.alike_copy (b : CommandBar) : b.alike b.copy = b.input.alike b.input.copy := by
  unfold CommandBar.alike CommandBar.copy
  simp

namespace State

theorem barAlike_copy_iff (s : State) :
    s.barAlike s.copy = true ↔
      ∀ b, s.bar = some b → b.input.row < 65536 ∧ b.input.column < 65536 := by
  unfold barAlike copy
  cases s.bar with
  | none => simp
  | some b => simp [CommandBar.alike_copy, TextInput.alike_copy_iff]

theorem copy_alike_iff (s : State) (t : TextInput) :
    t.copy.lines = t.lines ∧
    t.copy.row = min (t.row % 65536) (t.lines.length - 1) ∧
    t.copy.column = min (t.column % 65536) t.copy.line.length ∧
    (t.alike t.copy = true ↔ t.row < 65536 ∧ t.column < 65536) ∧
    (t.copy = { t with top := 0, left := 0 } ↔ t.row < 65536 ∧ t.column < 65536) ∧
    (s.barAlike s.copy = true
      ↔
    ∀ b, s.bar = some b → b.input.row < 65536 ∧ b.input.column < 65536) ∧
    { s.copy with bar := s.bar } = s :=
  ⟨t.copy_lines, TextInput.row_ofLines _ _ _, TextInput.column_ofLines _ _ _, t.alike_copy_iff,
    t.copy_eq_iff, s.barAlike_copy_iff, rfl⟩

theorem input_enterCommandBar (s : State) (now : Nat) (text : String) :
    (s.update now (.enterCommandBar (some text))).state.bar.map (·.input) = some (.ofText text) :=
  rfl

theorem copy_moves_cursor :
    let text := String.ofList (List.replicate 65536 'a')
    let t := TextInput.ofText text
    let s := (initial.update 0 (.enterCommandBar (some text))).state
    Reachable s ∧ s.bar.map (·.input) = some t ∧ t.column = 65536 ∧ t.copy.column = 0 ∧
      s.barAlike s.copy = false := by
  intro text t s
  have hcolumn : t.column = 65536 :=
    (TextInput.column_ofText _).trans List.length_replicate
  have hinput : s.bar.map (·.input) = some t := initial.input_enterCommandBar 0 text
  refine ⟨Reachable.initial.update 0 _, hinput, hcolumn, ?_, ?_⟩
  . unfold TextInput.copy
    rw [TextInput.column_ofLines, hcolumn]
    exact Nat.zero_min _
  . rw [Bool.eq_false_iff, Ne, barAlike_copy_iff]
    intro h
    obtain ⟨b, hb, hbar⟩ := Option.map_eq_some_iff.mp hinput
    have hlt := (h b hb).2
    rw [hbar, hcolumn] at hlt
    exact Nat.lt_irrefl _ hlt

end State
end WeekMenu

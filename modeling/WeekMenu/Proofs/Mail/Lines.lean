import WeekMenu.Mail
import WeekMenu.Proofs.Text.Blank

/-!
This module contains the lines of a list in the mail: one for each row, in the order of the rows.
-/

namespace WeekMenu
namespace Mail

def line (column : IngredientRow → String) (row : IngredientRow) : List Char :=
  "- ".toList ++ row.name.toList ++ ": ".toList ++ (column row).toList

def lines (column : IngredientRow → String) : List IngredientRow → List Char
  | [] => []
  | [row] => Text.trimEnd (line column row)
  | row :: rest => line column row ++ '\n' :: lines column rest

section Trim

variable {cs ds : List Char}

theorem trimEnd_append (h : ∃ c ∈ ds, Text.isBlank c = false) :
    Text.trimEnd (cs ++ ds) = cs ++ Text.trimEnd ds := by
  obtain ⟨c, hc, hblank⟩ := h
  have hne : ds.reverse.dropWhile Text.isBlank ≠ [] := by
    rw [ne_eq, List.dropWhile_eq_nil_iff]
    intro hall
    rw [hall c (List.mem_reverse.mpr hc)] at hblank
    cases hblank
  unfold Text.trimEnd
  rw [List.reverse_append, List.dropWhile_append, if_neg (by simpa using hne),
    List.reverse_append, List.reverse_reverse]

theorem trimEnd_concat_of_blank {c : Char} (h : Text.isBlank c = true) :
    Text.trimEnd (cs ++ [c]) = Text.trimEnd cs := by
  rw [Text.trimEnd_eq_rdropWhile, List.rdropWhile_concat_pos _ _ _ h, Text.trimEnd_eq_rdropWhile]

theorem head?_trimEnd {c : Char} (h : Text.isBlank c = false) :
    (Text.trimEnd (c :: cs)).head? = some c := by
  obtain ⟨rest, hrest⟩ := List.rdropWhile_prefix Text.isBlank (c :: cs)
  rw [Text.trimEnd_eq_rdropWhile]
  cases hkept : (c :: cs).rdropWhile Text.isBlank with
  | nil =>
    rw [List.rdropWhile_eq_nil_iff] at hkept
    rw [hkept c List.mem_cons_self] at h
    cases h
  | cons d kept =>
    rw [hkept, List.cons_append] at hrest
    rw [List.head?_cons, (List.cons.inj hrest).1]

end Trim

variable (column : IngredientRow → String)

theorem exists_not_blank_line (row : IngredientRow) :
    ∃ c ∈ line column row, Text.isBlank c = false :=
  ⟨'-', by simp [line], by decide⟩

theorem exists_not_blank_lines {rows : List IngredientRow} (hne : rows ≠ []) :
    ∃ c ∈ rows.flatMap fun row => line column row ++ ['\n'], Text.isBlank c = false := by
  obtain ⟨row, rest, rfl⟩ := List.exists_cons_of_ne_nil hne
  obtain ⟨c, hc, hblank⟩ := exists_not_blank_line column row
  refine ⟨c, ?_, hblank⟩
  rw [List.flatMap_cons]
  exact List.mem_append_left _ (List.mem_append_left _ hc)

theorem trimEnd_flatMap_line (rows : List IngredientRow) :
    Text.trimEnd (rows.flatMap fun row => line column row ++ ['\n']) = lines column rows := by
  have hbreak : Text.isBlank '\n' = true := by decide
  induction rows with
  | nil => rfl
  | cons row rest ih =>
    rw [List.flatMap_cons]
    cases rest with
    | nil => rw [List.flatMap_nil, List.append_nil, trimEnd_concat_of_blank hbreak, lines]
    | cons next rest =>
      rw [trimEnd_append (exists_not_blank_lines column (List.cons_ne_nil next rest)), ih,
        List.append_assoc]
      rfl

theorem toList_list (rows : List IngredientRow) :
    (list column rows).toList = lines column rows := by
  have hjoin : (String.join (rows.map fun row => s!"- {row.name}: {column row}\n")).toList
      = rows.flatMap fun row => line column row ++ ['\n'] := by
    rw [String.toList_join, List.flatMap_map]
    apply List.flatMap_congr
    intro row _
    simp [line, toString]
  have hstart : ∀ c ∈ (rows.flatMap fun row => line column row ++ ['\n']).head?,
      Text.isBlank c = false := by
    cases rows with
    | nil => simp
    | cons row rest =>
      intro c hc
      obtain rfl : '-' = c := by simpa [line] using hc
      decide
  unfold list Text.trim Text.trimChars
  rw [String.toList_ofList, hjoin, Text.trimStart_eq_self hstart, trimEnd_flatMap_line]

theorem head?_lines {rows : List IngredientRow} (hne : rows ≠ []) :
    (lines column rows).head? = some '-' := by
  have hdash : Text.isBlank '-' = false := by decide
  obtain ⟨row, rest, rfl⟩ := List.exists_cons_of_ne_nil hne
  cases rest with
  | nil => exact head?_trimEnd hdash
  | cons next rest => rfl

end Mail
end WeekMenu

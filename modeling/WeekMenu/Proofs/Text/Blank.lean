import Mathlib.Data.List.DropRight
import Mathlib.Data.List.TakeWhile
import WeekMenu.Text.Blank

/-!
This module contains facts about trimming a text, splitting off its first word, collapsing its
blanks and splitting it at a separator.
-/

namespace WeekMenu
namespace Text

def Trimmed (cs : List Char) : Prop :=
  (∀ c ∈ cs.head?, isBlank c = false) ∧ ∀ c ∈ cs.getLast?, isBlank c = false

theorem trimEnd_eq_rdropWhile (cs : List Char) : trimEnd cs = cs.rdropWhile isBlank := by
  rfl

theorem trimStart_eq_self {cs : List Char} (h : ∀ c ∈ cs.head?, isBlank c = false) :
    trimStart cs = cs := by
  unfold trimStart
  cases cs with
  | nil => rfl
  | cons c cs =>
    rw [List.dropWhile_cons_of_neg]
    simpa using h

theorem trimEnd_eq_self {cs : List Char} (h : ∀ c ∈ cs.getLast?, isBlank c = false) :
    trimEnd cs = cs := by
  rw [trimEnd_eq_rdropWhile, List.rdropWhile_eq_self_iff]
  intro hne
  rw [h _ (List.getLast?_eq_getLast_of_ne_nil hne)]
  simp

theorem trimChars_eq_self {cs : List Char} (h : Trimmed cs) : trimChars cs = cs := by
  unfold trimChars
  rw [trimStart_eq_self h.1, trimEnd_eq_self h.2]

theorem isBlank_of_mem_head?_trimStart (cs : List Char) :
    ∀ c ∈ (trimStart cs).head?, isBlank c = false := by
  intro c hc
  have := List.head?_dropWhile_not isBlank cs
  unfold trimStart at hc
  rw [Option.mem_def] at hc
  rw [hc] at this
  exact this

theorem trimmed_trimChars (cs : List Char) : Trimmed (trimChars cs) := by
  unfold trimChars
  rw [trimEnd_eq_rdropWhile]
  constructor
  . intro c hc
    apply isBlank_of_mem_head?_trimStart cs
    -- What is left of the text starts as it did before its end was cut off.
    obtain ⟨rest, hrest⟩ := List.rdropWhile_prefix isBlank (trimStart cs)
    rw [← hrest, Option.mem_def, List.head?_append, hc]
    rfl
  . intro c hc
    obtain ⟨hne, rfl⟩ := List.mem_getLast?_eq_getLast hc
    simpa using List.rdropWhile_last_not isBlank (trimStart cs) hne

theorem trimmed_of_not_blank {cs : List Char} (h : ∀ c ∈ cs, isBlank c = false) : Trimmed cs := by
  constructor
  . intro c hc
    exact h c (List.mem_of_mem_head? hc)
  . intro c hc
    exact h c (List.mem_of_mem_getLast? hc)

theorem trimmed_append {cs ds : List Char} (hcs : cs ≠ []) (hds : ds ≠ [])
    (hfirst : ∀ c ∈ cs.head?, isBlank c = false) (hlast : ∀ c ∈ ds.getLast?, isBlank c = false) :
    Trimmed (cs ++ ds) := by
  constructor
  . rwa [List.head?_append_of_ne_nil cs hcs]
  . rwa [List.getLast?_append_of_ne_nil cs hds]

@[simp]
theorem trimChars_trimChars (cs : List Char) : trimChars (trimChars cs) = trimChars cs := by
  apply trimChars_eq_self
  apply trimmed_trimChars

theorem trim_trim (s : String) : trim (trim s) = trim s := by
  unfold trim
  rw [String.toList_ofList, trimChars_trimChars]

theorem trim_eq_self_iff {s : String} : trim s = s ↔ trimChars s.toList = s.toList := by
  unfold trim
  rw [← String.toList_inj, String.toList_ofList]

theorem trimChars_eq_nil_iff {cs : List Char} :
    trimChars cs = [] ↔ ∀ c ∈ cs, isBlank c = true := by
  unfold trimChars
  rw [trimEnd_eq_rdropWhile, List.rdropWhile_eq_nil_iff]
  constructor
  . intro h
    unfold trimStart at h
    rw [← List.dropWhile_eq_nil_iff]
    cases hrest : cs.dropWhile isBlank with
    | nil => rfl
    | cons c rest =>
      have hc : isBlank c = false := by
        apply isBlank_of_mem_head?_trimStart cs
        simp [trimStart, hrest]
      rw [hrest] at h
      rw [h c (by simp)] at hc
      cases hc
  . intro h c hc
    apply h
    exact (List.dropWhile_suffix isBlank).subset hc

theorem trimChars_ne_nil_of_trimmed {head rest : List Char} {b : Char}
    (h : Trimmed (head ++ b :: rest)) (hb : isBlank b = true) : trimChars rest ≠ [] := by
  intro hnil
  rw [trimChars_eq_nil_iff] at hnil
  have hblank : ∀ c ∈ b :: rest, isBlank c = true := List.forall_mem_cons.mpr ⟨hb, hnil⟩
  have hlast := List.getLast?_eq_getLast_of_ne_nil (List.cons_ne_nil b rest)
  have := h.2 _ (by rw [List.getLast?_append_of_ne_nil head (List.cons_ne_nil b rest), hlast]; rfl)
  rw [hblank _ (List.getLast_mem _)] at this
  cases this

theorem splitFirstBlank_of_not_blank {cs : List Char} (h : ∀ c ∈ cs, isBlank c = false) :
    splitFirstBlank cs = (cs, none) := by
  unfold splitFirstBlank
  rw [List.dropWhile_eq_nil_iff.mpr]
  simpa using h

theorem splitFirstBlank_append {head : List Char} {b : Char} (h : ∀ c ∈ head, isBlank c = false)
    (hb : isBlank b = true) (rest : List Char) :
    splitFirstBlank (head ++ b :: rest) = (head, some rest) := by
  have hhead : ∀ c ∈ head, (!isBlank c) = true := by
    simpa using h
  unfold splitFirstBlank
  rw [List.dropWhile_append_of_pos hhead, List.takeWhile_append_of_pos hhead]
  simp [hb]

theorem splitFirstBlank_cases (cs : List Char) :
    ((∀ c ∈ cs, isBlank c = false) ∧ splitFirstBlank cs = (cs, none)) ∨
    (∃ head b rest, cs = head ++ b :: rest ∧ (∀ c ∈ head, isBlank c = false) ∧
      isBlank b = true ∧ splitFirstBlank cs = (head, some rest)) := by
  by_cases h : ∀ c ∈ cs, isBlank c = false
  . exact Or.inl ⟨h, splitFirstBlank_of_not_blank h⟩
  . right
    cases hrest : cs.dropWhile (!isBlank ·) with
    | nil =>
      rw [List.dropWhile_eq_nil_iff] at hrest
      exact absurd (by simpa using hrest) h
    | cons b rest =>
      have hsplit : cs = cs.takeWhile (!isBlank ·) ++ b :: rest := by
        rw [← hrest, List.takeWhile_append_dropWhile]
      have hb := List.head?_dropWhile_not (!isBlank ·) cs
      rw [hrest] at hb
      refine ⟨_, b, rest, hsplit, ?_, by simpa using hb, ?_⟩
      . intro c hc
        simpa using List.mem_takeWhile_imp hc
      . unfold splitFirstBlank
        rw [hrest]

theorem collapseBlanks.go_append {head : List Char} (hne : head ≠ [])
    (h : ∀ c ∈ head, isBlank c = false) (atBlank : Bool) (rest : List Char) :
    collapseBlanks.go atBlank (head ++ rest) = head ++ collapseBlanks.go false rest := by
  induction head generalizing atBlank with
  | nil => contradiction
  | cons c head ih =>
    obtain ⟨hc, hhead⟩ := List.forall_mem_cons.mp h
    rw [List.cons_append, collapseBlanks.go, hc]
    cases head with
    | nil => rfl
    | cons d head =>
      rw [if_neg Bool.false_ne_true, ih (by simp) hhead]
      rfl

theorem collapseBlanks_append {head : List Char} {b : Char} (hne : head ≠ [])
    (h : ∀ c ∈ head, isBlank c = false) (hb : isBlank b = true) (rest : List Char) :
    collapseBlanks (head ++ b :: rest) = head ++ ' ' :: collapseBlanks rest := by
  unfold collapseBlanks
  rw [collapseBlanks.go_append hne h, collapseBlanks.go, hb]
  rfl

theorem collapseBlanks.go_blank {c : Char} (hc : isBlank c = true) (atBlank : Bool)
    (cs : List Char) (hmem : c ∈ collapseBlanks.go atBlank cs) : c = ' ' := by
  induction cs generalizing atBlank with
  | nil => cases hmem
  | cons d cs ih =>
    rw [collapseBlanks.go] at hmem
    split at hmem
    . split at hmem
      . exact ih true hmem
      . rcases List.mem_cons.mp hmem with hspace | hrest
        . exact hspace
        . exact ih true hrest
    . next hd =>
      rcases List.mem_cons.mp hmem with rfl | hrest
      . exact absurd hc hd
      . exact ih false hrest

theorem eq_space_of_mem_collapseBlanks {c : Char} {cs : List Char} (h : c ∈ collapseBlanks cs)
    (hc : isBlank c = true) : c = ' ' := by
  exact collapseBlanks.go_blank hc true cs h

theorem eq_of_append_sep_eq {sep : Char} {cs ds first second : List Char} (hcs : sep ∉ cs)
    (hds : sep ∉ ds) (h : first ++ sep :: cs = second ++ sep :: ds) :
    first = second ∧ cs = ds := by
  rcases List.append_eq_append_iff.mp h with ⟨rest, rfl, hrest⟩ | ⟨rest, rfl, hrest⟩
  . cases rest with
    | nil => simpa using hrest
    | cons c rest =>
      cases hrest
      simp at hcs
  . cases rest with
    | nil => simpa using hrest.symm
    | cons c rest =>
      cases hrest
      simp at hds

theorem splitOn_ne_nil (sep : Char) (cs : List Char) : splitOn sep cs ≠ [] := by
  cases cs with
  | nil => simp [splitOn]
  | cons c cs =>
    rw [splitOn]
    split
    . simp
    . split
      . simp
      . simp

theorem splitOn_of_not_mem {sep : Char} {cs : List Char} (h : sep ∉ cs) :
    splitOn sep cs = [cs] := by
  induction cs with
  | nil => rfl
  | cons c cs ih =>
    rw [List.mem_cons, not_or] at h
    rw [splitOn, if_neg (Ne.symm h.1), ih h.2]

theorem splitOn_append_sep (sep : Char) (cs ds : List Char) :
    splitOn sep (cs ++ sep :: ds) = splitOn sep cs ++ splitOn sep ds := by
  induction cs with
  | nil => simp [splitOn]
  | cons c cs ih =>
    rw [List.cons_append, splitOn, splitOn, ih]
    split
    . rfl
    . cases hcs : splitOn sep cs with
      | nil => exact absurd hcs (splitOn_ne_nil sep cs)
      | cons part parts => rfl

theorem splitOn_append {sep : Char} {part : List Char} (h : sep ∉ part) (rest : List Char) :
    splitOn sep (part ++ sep :: rest) = part :: splitOn sep rest := by
  rw [splitOn_append_sep, splitOn_of_not_mem h]
  rfl

theorem splitOn_cases {sep : Char} {cs part : List Char} {parts : List (List Char)}
    (h : splitOn sep cs = part :: parts) :
    sep ∉ part ∧ (cs = part ∧ parts = [] ∨
      ∃ rest, cs = part ++ sep :: rest ∧ splitOn sep rest = parts) := by
  induction cs generalizing part parts with
  | nil =>
    cases h
    simp
  | cons c cs ih =>
    rw [splitOn] at h
    split at h
    . next hc =>
      cases h
      exact ⟨by simp, Or.inr ⟨cs, by simp [hc], rfl⟩⟩
    . next hc =>
      split at h
      . next hnil => exact absurd hnil (splitOn_ne_nil sep cs)
      . next first others hrest =>
        cases h
        obtain ⟨hfirst, hcs⟩ := ih hrest
        refine ⟨by simp [hfirst, Ne.symm hc], ?_⟩
        rcases hcs with ⟨rfl, hothers⟩ | ⟨rest, rfl, hothers⟩
        . exact Or.inl ⟨rfl, hothers⟩
        . exact Or.inr ⟨rest, rfl, hothers⟩

theorem splitOn_eq_three_iff {sep : Char} {cs first second third : List Char} :
    splitOn sep cs = [first, second, third] ↔
      cs = first ++ sep :: (second ++ sep :: third) ∧ sep ∉ first ∧ sep ∉ second ∧
        sep ∉ third := by
  constructor
  . intro h
    obtain ⟨hfirst, ⟨_, hnil⟩ | ⟨_, rfl, hafterFirst⟩⟩ := splitOn_cases h
    . cases hnil
    obtain ⟨hsecond, ⟨_, hnil⟩ | ⟨_, rfl, hafterSecond⟩⟩ := splitOn_cases hafterFirst
    . cases hnil
    obtain ⟨hthird, ⟨rfl, _⟩ | ⟨rest, _, hafterThird⟩⟩ := splitOn_cases hafterSecond
    . exact ⟨rfl, hfirst, hsecond, hthird⟩
    . exact absurd hafterThird (splitOn_ne_nil sep rest)
  . rintro ⟨rfl, hfirst, hsecond, hthird⟩
    rw [splitOn_append hfirst, splitOn_append hsecond, splitOn_of_not_mem hthird]

end Text
end WeekMenu

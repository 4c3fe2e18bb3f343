import Mathlib.Data.List.Chain
import WeekMenu.Proofs.Text.Blank

/-!
This module contains facts about the words of a text and about collapsing its blanks: what is left
are the words, one space apart, and a space behind them if the text ended with a blank.
-/

namespace WeekMenu
namespace Text

structure IsWord (word : List Char) : Prop where
  ne_nil : word ≠ []
  not_blank : ∀ c ∈ word, isBlank c = false

theorem word_induction {motive : List Char → Prop} (nil : motive [])
    (blank : ∀ b rest, isBlank b = true → motive rest → motive (b :: rest))
    (word : ∀ word, IsWord word → motive word)
    (append : ∀ word b rest, IsWord word → isBlank b = true → motive rest →
      motive (word ++ b :: rest))
    (cs : List Char) : motive cs := by
  induction hn : cs.length using Nat.strong_induction_on generalizing cs with
  | _ n ih =>
    have hshorter : ∀ rest : List Char, rest.length < n → motive rest :=
      fun rest hlt => ih _ hlt rest rfl
    obtain ⟨hcs, _⟩ | ⟨head, b, rest, rfl, hhead, hb, _⟩ := splitFirstBlank_cases cs
    . by_cases hnil : cs = []
      . rw [hnil]
        exact nil
      . exact word cs ⟨hnil, hcs⟩
    . have hrest : motive rest := by
        apply hshorter
        rw [← hn, List.length_append, List.length_cons]
        omega
      by_cases hnil : head = []
      . rw [hnil]
        exact blank b rest hb hrest
      . exact append head b rest ⟨hnil, hhead⟩ hb hrest

section Words

variable {word rest : List Char} {b : Char}

theorem words.go_append (h : ∀ c ∈ word, isBlank c = false) (before : List Char) :
    go before (word ++ rest) = go (word.reverse ++ before) rest := by
  induction word generalizing before with
  | nil => rfl
  | cons c word ih =>
    obtain ⟨hc, hword⟩ := List.forall_mem_cons.mp h
    rw [List.cons_append, go, if_neg (by simp [hc]), ih hword, List.reverse_cons,
      List.append_assoc]
    rfl

theorem words_blank (hb : isBlank b = true) : words (b :: rest) = words rest := by
  unfold words
  rw [words.go, if_pos hb]
  rfl

theorem words_word (h : IsWord word) : words word = [word] := by
  have hgo := @words.go_append word [] h.not_blank []
  rw [List.append_nil, List.append_nil] at hgo
  unfold words
  rw [hgo, words.go, if_neg (by simp [h.ne_nil]), List.reverse_reverse]

theorem words_append (h : IsWord word) (hb : isBlank b = true) :
    words (word ++ b :: rest) = word :: words rest := by
  unfold words
  rw [words.go_append h.not_blank, List.append_nil, words.go, if_pos hb,
    if_neg (by simp [h.ne_nil]), List.reverse_reverse]

theorem collapseBlanks_blank (hb : isBlank b = true) :
    collapseBlanks (b :: rest) = collapseBlanks rest := by
  unfold collapseBlanks
  rw [collapseBlanks.go, if_pos hb]
  rfl

theorem collapseBlanks_word (h : IsWord word) : collapseBlanks word = word := by
  have hgo := collapseBlanks.go_append h.ne_nil h.not_blank true []
  rw [collapseBlanks.go, List.append_nil] at hgo
  exact hgo

end Words

theorem flatten_words (cs : List Char) : (words cs).flatten = cs.filter (!isBlank ·) := by
  have hkept : ∀ {word : List Char}, IsWord word → word.filter (!isBlank ·) = word := by
    intro word h
    rw [List.filter_eq_self]
    simpa using h.not_blank
  induction cs using word_induction with
  | nil => rfl
  | blank b rest hb ih => rw [words_blank hb, ih, List.filter_cons_of_neg (by simp [hb])]
  | word word h => rw [words_word h, hkept h, List.flatten_singleton]
  | append word b rest h hb ih =>
    rw [words_append h hb, List.flatten_cons, ih, List.filter_append, hkept h,
      List.filter_cons_of_neg (by simp [hb])]

theorem words_collapseBlanks (cs : List Char) : words (collapseBlanks cs) = words cs := by
  have hspace : isBlank ' ' = true := by decide
  induction cs using word_induction with
  | nil => rfl
  | blank b rest hb ih => rw [collapseBlanks_blank hb, words_blank hb, ih]
  | word word h => rw [collapseBlanks_word h]
  | append word b rest h hb ih =>
    rw [collapseBlanks_append h.ne_nil h.not_blank hb, words_append h hspace, words_append h hb, ih]

theorem collapseBlanks_collapseBlanks (cs : List Char) :
    collapseBlanks (collapseBlanks cs) = collapseBlanks cs := by
  have hspace : isBlank ' ' = true := by decide
  induction cs using word_induction with
  | nil => rfl
  | blank b rest hb ih => rw [collapseBlanks_blank hb, ih]
  | word word h => rw [collapseBlanks_word h, collapseBlanks_word h]
  | append word b rest h hb ih =>
    rw [collapseBlanks_append h.ne_nil h.not_blank hb,
      collapseBlanks_append h.ne_nil h.not_blank hspace, ih]

theorem head?_collapseBlanks (cs : List Char) :
    ∀ c ∈ (collapseBlanks cs).head?, isBlank c = false := by
  induction cs using word_induction with
  | nil => nofun
  | blank b rest hb ih => rwa [collapseBlanks_blank hb]
  | word word h =>
    rw [collapseBlanks_word h]
    exact fun c hc => h.not_blank c (List.mem_of_mem_head? hc)
  | append word b rest h hb ih =>
    rw [collapseBlanks_append h.ne_nil h.not_blank hb, List.head?_append_of_ne_nil word h.ne_nil]
    exact fun c hc => h.not_blank c (List.mem_of_mem_head? hc)

theorem isChain_collapseBlanks (cs : List Char) :
    (collapseBlanks cs).IsChain fun c d => isBlank c = false ∨ isBlank d = false := by
  have hword : ∀ {word : List Char}, IsWord word →
      word.IsChain fun c d => isBlank c = false ∨ isBlank d = false := by
    intro word h
    rw [List.isChain_iff_getElem]
    exact fun i hi => Or.inl (h.not_blank _ (List.getElem_mem _))
  induction cs using word_induction with
  | nil => exact .nil
  | blank b rest hb ih => rwa [collapseBlanks_blank hb]
  | word word h =>
    rw [collapseBlanks_word h]
    exact hword h
  | append word b rest h hb ih =>
    rw [collapseBlanks_append h.ne_nil h.not_blank hb, List.isChain_append, List.isChain_cons]
    refine ⟨hword h, ⟨?_, ih⟩, ?_⟩
    . exact fun c hc => Or.inr (head?_collapseBlanks rest c hc)
    . exact fun c hc _ _ => Or.inl (h.not_blank c (List.mem_of_getLast? hc))

theorem trimStart_go (cs : List Char) :
    trimStart (collapseBlanks.go false cs) = collapseBlanks cs := by
  have hstart := trimStart_eq_self (head?_collapseBlanks cs)
  cases cs with
  | nil => rfl
  | cons c cs =>
    cases hc : isBlank c with
    | true =>
      rw [collapseBlanks_blank hc] at hstart ⊢
      rw [collapseBlanks.go, if_pos hc]
      exact hstart
    | false =>
      have hsame : collapseBlanks (c :: cs) = collapseBlanks.go false (c :: cs) := by
        unfold collapseBlanks
        rw [collapseBlanks.go, if_neg (by simp [hc]), collapseBlanks.go, if_neg (by simp [hc])]
      rw [← hsame, hstart]

def endsBlank (cs : List Char) : Bool :=
  cs.getLast?.any isBlank

theorem endsBlank_append {ds : List Char} (hds : ds ≠ []) (cs : List Char) :
    endsBlank (cs ++ ds) = endsBlank ds := by
  unfold endsBlank
  rw [List.getLast?_append_of_ne_nil cs hds]

theorem endsBlank_cons_of_ne_nil {cs : List Char} (hcs : cs ≠ []) (c : Char) :
    endsBlank (c :: cs) = endsBlank cs :=
  endsBlank_append hcs [c]

theorem endsBlank_eq {b : Bool} {cs : List Char} (hcs : cs ≠ []) (h : ∀ c ∈ cs, isBlank c = b) :
    endsBlank cs = b := by
  unfold endsBlank
  rw [List.getLast?_eq_getLast_of_ne_nil hcs, Option.any_some]
  exact h _ (List.getLast_mem hcs)

theorem blank_of_words_eq_nil {cs : List Char} (h : words cs = []) :
    ∀ c ∈ cs, isBlank c = true := by
  have hfilter : cs.filter (!isBlank ·) = [] := by
    rw [← flatten_words, h, List.flatten_nil]
  rw [List.filter_eq_nil_iff] at hfilter
  simpa using hfilter

theorem endsBlank_blank {b : Char} (hb : isBlank b = true) (rest : List Char) :
    endsBlank (b :: rest) = if words rest = [] then true else endsBlank rest := by
  split
  . next hnil =>
    apply endsBlank_eq (List.cons_ne_nil b rest)
    exact List.forall_mem_cons.mpr ⟨hb, blank_of_words_eq_nil hnil⟩
  . next hne =>
    apply endsBlank_cons_of_ne_nil
    rintro rfl
    exact hne rfl

theorem collapseBlanks_eq (cs : List Char) :
    collapseBlanks cs =
      [' '].intercalate (words cs) ++
        if words cs ≠ [] ∧ endsBlank cs = true then [' '] else [] := by
  induction cs using word_induction with
  | nil => rfl
  | blank b rest hb ih =>
    rw [collapseBlanks_blank hb, words_blank hb, endsBlank_blank hb, ih]
    by_cases hnil : words rest = []
    . simp [hnil]
    . simp [hnil]
  | word word h =>
    rw [collapseBlanks_word h, words_word h, endsBlank_eq h.ne_nil h.not_blank]
    simp
  | append word b rest h hb ih =>
    rw [collapseBlanks_append h.ne_nil h.not_blank hb, words_append h hb,
      endsBlank_append (List.cons_ne_nil b rest), endsBlank_blank hb, ih]
    by_cases hnil : words rest = []
    . simp [hnil]
    . simp [hnil, List.intercalate_cons_of_ne_nil]

theorem endsBlank_collapseBlanks {cs : List Char} (h : words cs ≠ []) :
    endsBlank (collapseBlanks cs) = endsBlank cs := by
  induction cs using word_induction with
  | nil => exact absurd rfl h
  | blank b rest hb ih =>
    rw [words_blank hb] at h
    rw [collapseBlanks_blank hb, endsBlank_blank hb, if_neg h, ih h]
  | word word hword => rw [collapseBlanks_word hword]
  | append word b rest hword hb ih =>
    have hspace : isBlank ' ' = true := by decide
    rw [collapseBlanks_append hword.ne_nil hword.not_blank hb,
      endsBlank_append (List.cons_ne_nil _ _), endsBlank_append (List.cons_ne_nil _ _),
      endsBlank_blank hspace, endsBlank_blank hb, words_collapseBlanks]
    split
    . rfl
    . next hne => exact ih hne

theorem collapseBlanks_eq_iff {cs ds : List Char} :
    collapseBlanks cs = collapseBlanks ds ↔
      words cs = words ds ∧ (words cs ≠ [] → endsBlank cs = endsBlank ds) := by
  constructor
  . intro h
    have hwords : words cs = words ds := by
      rw [← words_collapseBlanks cs, h, words_collapseBlanks]
    refine ⟨hwords, ?_⟩
    intro hne
    rw [← endsBlank_collapseBlanks hne, h, endsBlank_collapseBlanks (hwords ▸ hne)]
  . rintro ⟨hwords, hend⟩
    rw [collapseBlanks_eq, collapseBlanks_eq, ← hwords]
    by_cases hne : words cs = []
    . simp [hne]
    . rw [hend hne]

structure Collapsed (cs ds : List Char) : Prop where
  start : ∀ c ∈ ds.head?, isBlank c = false
  apart : ds.IsChain fun c d => isBlank c = false ∨ isBlank d = false
  space : ∀ c ∈ ds, isBlank c = true → c = ' '
  kept : ds.filter (!isBlank ·) = cs.filter (!isBlank ·)
  words : words ds = words cs

theorem collapsed_collapseBlanks (cs : List Char) : Collapsed cs (collapseBlanks cs) where
  start := head?_collapseBlanks cs
  apart := isChain_collapseBlanks cs
  space _ := eq_space_of_mem_collapseBlanks
  kept := by rw [← flatten_words, words_collapseBlanks, flatten_words]
  words := words_collapseBlanks cs

end Text
end WeekMenu

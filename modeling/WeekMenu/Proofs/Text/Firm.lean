import WeekMenu.Proofs.Text.Case

/-!
This module contains the lower case of a part of a text. The part is lowered as it would be on its
own, except that a capital sigma may or may not be the last letter of a word. The texts for which
the surroundings make no difference are the firm ones.
-/

namespace WeekMenu
namespace Text

def isIgnorable (c : Char) : Bool :=
  inRanges caseIgnorableRanges c.toNat

def isCased (c : Char) : Bool :=
  inRanges casedRanges c.toNat

theorem meetsCased_cons (c : Char) (cs : List Char) :
    meetsCased (c :: cs) = if isIgnorable c then meetsCased cs else isCased c := by
  unfold meetsCased isIgnorable isCased
  rw [List.dropWhile_cons]
  by_cases hc : inRanges caseIgnorableRanges c.toNat = true
  . rw [if_pos hc, if_pos hc]
  . rw [if_neg hc, if_neg hc]

theorem meetsCased_append_of_ignorable {cs : List Char} (h : ∀ c ∈ cs, isIgnorable c = true)
    (ds : List Char) : meetsCased (cs ++ ds) = meetsCased ds := by
  induction cs with
  | nil => rfl
  | cons c cs ih =>
    obtain ⟨hc, hcs⟩ := List.forall_mem_cons.mp h
    rw [List.cons_append, meetsCased_cons, if_pos hc, ih hcs]

theorem meetsCased_of_ignorable {cs : List Char} (h : ∀ c ∈ cs, isIgnorable c = true) :
    meetsCased cs = false := by
  rw [← List.append_nil cs, meetsCased_append_of_ignorable h]
  rfl

theorem meetsCased_append_of_mem {cs : List Char} {c : Char} (hmem : c ∈ cs)
    (hc : isIgnorable c = false) (ds : List Char) : meetsCased (cs ++ ds) = meetsCased cs := by
  induction cs with
  | nil => cases hmem
  | cons d cs ih =>
    rw [List.cons_append, meetsCased_cons, meetsCased_cons]
    split
    . next hd =>
      cases hmem with
      | head => simp [hd] at hc
      | tail _ hmem => exact ih hmem
    . rfl

theorem meetsCased_append_of_meetsCased {cs : List Char} (h : meetsCased cs = true)
    (ds : List Char) : meetsCased (cs ++ ds) = true := by
  by_cases hall : ∀ c ∈ cs, isIgnorable c = true
  . rw [meetsCased_of_ignorable hall] at h
    cases h
  . push Not at hall
    obtain ⟨c, hmem, hc⟩ := hall
    rw [meetsCased_append_of_mem hmem (by simpa using hc), h]

def lowerAt (before : List Char) (c : Char) (after : List Char) : List Char :=
  if c = 'Σ' then
    [if meetsCased before && !meetsCased after then 'ς' else 'σ']
  else if c = 'İ' then
    ['i', '\u0307']
  else
    [lowerChar c]

def lowerBetween (before : List Char) : List Char → List Char → List Char
  | [], _ => []
  | c :: cs, after => lowerAt before c (cs ++ after) ++ lowerBetween (c :: before) cs after

theorem lowerAt_of_ne {c : Char} (h : c ≠ 'Σ') (before before' after after' : List Char) :
    lowerAt before c after = lowerAt before' c after' := by
  simp [lowerAt, h]

theorem length_lowerAt (before before' after after' : List Char) (c : Char) :
    (lowerAt before c after).length = (lowerAt before' c after').length := by
  unfold lowerAt
  split
  . rfl
  . rfl

theorem length_lowerBetween (before before' cs after after' : List Char) :
    (lowerBetween before cs after).length = (lowerBetween before' cs after').length := by
  induction cs generalizing before before' with
  | nil => rfl
  | cons c cs ih =>
    simp only [lowerBetween, List.length_append]
    rw [length_lowerAt before before' _ (cs ++ after'), ih (c :: before) (c :: before')]

theorem go_append (before cs after : List Char) :
    lowerChars.go before (cs ++ after)
      =
    lowerBetween before cs after ++ lowerChars.go (cs.reverse ++ before) after := by
  induction cs generalizing before with
  | nil => rfl
  | cons c cs ih =>
    rw [List.cons_append, lowerChars.go, ih, List.reverse_cons, List.append_assoc]
    simp [lowerBetween, lowerAt]

theorem lowerChars_eq (cs : List Char) : lowerChars cs = lowerBetween [] cs [] := by
  have h := go_append [] cs []
  simpa [lowerChars, lowerChars.go] using h

theorem lowerBetween_append (before cs ds after : List Char) :
    lowerBetween before (cs ++ ds) after
      =
    lowerBetween before cs (ds ++ after) ++ lowerBetween (cs.reverse ++ before) ds after := by
  induction cs generalizing before with
  | nil => rfl
  | cons c cs ih =>
    simp only [List.cons_append, lowerBetween, ih, List.append_assoc, List.reverse_cons,
      List.nil_append]

theorem lowerBetween_congr {before before' cs after after' : List Char}
    (h : ∀ first c rest, cs = first ++ c :: rest →
      lowerAt (first.reverse ++ before) c (rest ++ after)
        =
      lowerAt (first.reverse ++ before') c (rest ++ after')) :
    lowerBetween before cs after = lowerBetween before' cs after' := by
  induction cs generalizing before before' with
  | nil => rfl
  | cons c cs ih =>
    have hc := h [] c cs rfl
    have hcs : lowerBetween (c :: before) cs after = lowerBetween (c :: before') cs after' := by
      apply ih
      intro first d rest hcs
      have hd := h (c :: first) d rest (by rw [hcs, List.cons_append])
      simpa using hd
    simp only [lowerBetween, hcs]
    simpa using hc

/--
No capital sigma of the text leaves it to the surroundings whether it is the last letter of a word.
If nothing but case ignorable characters stands before it, a letter follows it; if nothing but such
characters follows it, no letter stands before it.
-/
structure Firm (cs : List Char) : Prop where
  start : ∀ first rest, cs = first ++ 'Σ' :: rest → (∀ c ∈ first, isIgnorable c = true) →
    meetsCased rest = true
  finish : ∀ first rest, cs = first ++ 'Σ' :: rest → (∀ c ∈ rest, isIgnorable c = true) →
    meetsCased first.reverse = false

theorem Firm.lowerAt_sigma {cs first rest : List Char} (h : Firm cs)
    (hcs : cs = first ++ 'Σ' :: rest) (before after : List Char) :
    lowerAt (first.reverse ++ before) 'Σ' (rest ++ after) = lowerAt first.reverse 'Σ' rest := by
  unfold lowerAt
  rw [if_pos rfl, if_pos rfl]
  -- the text before `first` is looked at only if `first` can be ignored, likewise behind `rest`
  by_cases hfirst : ∀ c ∈ first, isIgnorable c = true
  . have hrest := h.start first rest hcs hfirst
    rw [meetsCased_append_of_meetsCased hrest, hrest]
    simp
  . push Not at hfirst
    obtain ⟨c, hmem, hc⟩ := hfirst
    rw [meetsCased_append_of_mem (List.mem_reverse.mpr hmem) (by simpa using hc)]
    by_cases hrest : ∀ c ∈ rest, isIgnorable c = true
    . rw [h.finish first rest hcs hrest]
      simp
    . push Not at hrest
      obtain ⟨d, hmem, hd⟩ := hrest
      rw [meetsCased_append_of_mem hmem (by simpa using hd)]

theorem Firm.lowerBetween_eq {cs : List Char} (h : Firm cs) (before after : List Char) :
    lowerBetween before cs after = lowerChars cs := by
  rw [lowerChars_eq]
  apply lowerBetween_congr
  intro first c rest hcs
  by_cases hc : c = 'Σ'
  . subst hc
    rw [h.lowerAt_sigma hcs, List.append_nil, List.append_nil]
  . apply lowerAt_of_ne hc

theorem Firm.infix_lowerChars {cs text : List Char} (h : Firm cs) (hcs : cs <:+: text) :
    lowerChars cs <:+: lowerChars text := by
  obtain ⟨before, after, rfl⟩ := hcs
  rw [lowerChars_eq (before ++ cs ++ after), List.append_assoc, lowerBetween_append,
    lowerBetween_append, h.lowerBetween_eq, ← List.append_assoc]
  exact List.infix_append _ _ _

theorem lowerAt_sigma_of_final {before after : List Char} (hb : meetsCased before = true)
    (ha : meetsCased after = false) : lowerAt before 'Σ' after = ['ς'] := by
  simp [lowerAt, hb, ha]

theorem lowerAt_sigma_of_first {before : List Char} (hb : meetsCased before = false)
    (after : List Char) : lowerAt before 'Σ' after = ['σ'] := by
  simp [lowerAt, hb]

theorem lowerAt_sigma_of_inner {after : List Char} (ha : meetsCased after = true)
    (before : List Char) : lowerAt before 'Σ' after = ['σ'] := by
  simp [lowerAt, ha]

theorem lowerBetween_append_sigma (before first rest after : List Char) :
    lowerBetween before (first ++ 'Σ' :: rest) after
      =
    lowerBetween before first ('Σ' :: rest ++ after) ++
      (lowerAt (first.reverse ++ before) 'Σ' (rest ++ after) ++
        lowerBetween ('Σ' :: (first.reverse ++ before)) rest after) := by
  rw [lowerBetween_append]
  rfl

theorem lowerBetween_ne_of_sigma {cs first rest before before' after after' : List Char}
    (hcs : cs = first ++ 'Σ' :: rest)
    (h : lowerAt (first.reverse ++ before) 'Σ' (rest ++ after) = ['σ'])
    (h' : lowerAt (first.reverse ++ before') 'Σ' (rest ++ after') = ['ς']) :
    lowerBetween before cs after ≠ lowerBetween before' cs after' := by
  intro heq
  rw [hcs, lowerBetween_append_sigma, lowerBetween_append_sigma, h, h'] at heq
  have hrest := (List.append_inj heq (length_lowerBetween _ _ _ _ _)).2
  simp at hrest

theorem not_mem_lowerBetween_of_ignorable {cs : List Char} (h : ∀ c ∈ cs, isIgnorable c = true)
    (before after : List Char) : 'a' ∉ lowerBetween before cs after := by
  induction cs generalizing before with
  | nil => simp [lowerBetween]
  | cons c cs ih =>
    obtain ⟨hc, hcs⟩ := List.forall_mem_cons.mp h
    have hsigma : c ≠ 'Σ' := by
      rintro rfl
      exact absurd hc (by decide +kernel)
    have hdot : c ≠ 'İ' := by
      rintro rfl
      exact absurd hc (by decide +kernel)
    have hlower : c.toLower = 'a' ↔ c = 'A' ∨ c = 'a' := toLower_eq_iff (by decide) (by decide)
    have hletter : lowerChar c ≠ 'a' := by
      rw [Ne, lowerChar_eq_iff (by decide) (by decide), hlower]
      rintro (rfl | rfl)
      . exact absurd hc (by decide +kernel)
      . exact absurd hc (by decide +kernel)
    simp [lowerBetween, lowerAt, hsigma, hdot, hletter.symm, ih hcs]

theorem eq_cons_or_concat_of_infix {cs ds : List Char} (h : cs <:+: ds)
    (hlength : ds.length = cs.length + 1) : ∃ c, ds = c :: cs ∨ ds = cs ++ [c] := by
  obtain ⟨before, after, rfl⟩ := h
  simp only [List.length_append] at hlength
  cases before with
  | nil =>
    obtain ⟨c, rfl⟩ := List.length_eq_one_iff.mp (show after.length = 1 by simpa using hlength)
    exact ⟨c, Or.inr rfl⟩
  | cons c before =>
    simp only [List.length_cons] at hlength
    have hbefore : before = [] := List.length_eq_zero_iff.mp (by omega)
    have hafter : after = [] := List.length_eq_zero_iff.mp (by omega)
    subst hbefore hafter
    exact ⟨c, Or.inl (by simp)⟩

theorem lowerChars_cons_a (cs : List Char) :
    lowerChars ('a' :: cs) = 'a' :: lowerBetween ['a'] cs [] := by
  rw [lowerChars_eq]
  rfl

theorem lowerChars_concat_a (cs : List Char) :
    lowerChars (cs ++ ['a']) = lowerBetween [] cs ['a'] ++ ['a'] := by
  rw [lowerChars_eq, lowerBetween_append]
  rfl

theorem cons_ne_append_cons {a b : Char} {front cs ds : List Char} (hne : a ≠ b)
    (hfront : a ∉ front) : a :: cs ≠ front ++ b :: ds := by
  intro heq
  cases front with
  | nil => exact hne (List.cons.inj heq).1
  | cons c front => exact hfront ((List.cons.inj heq).1 ▸ List.mem_cons_self)

theorem concat_ne_append_cons {a b : Char} {cs ds back : List Char} (hne : a ≠ b)
    (hback : a ∉ back) : cs ++ [a] ≠ ds ++ b :: back := by
  intro heq
  have hreverse := congrArg List.reverse heq
  simp only [List.reverse_append, List.reverse_cons, List.reverse_nil, List.nil_append,
    List.singleton_append, List.append_assoc] at hreverse
  exact cons_ne_append_cons hne (by simpa using hback) hreverse

theorem firm_of_infix {cs : List Char} (hfront : lowerChars cs <:+: lowerChars ('a' :: cs))
    (hback : lowerChars cs <:+: lowerChars (cs ++ ['a'])) : Firm cs where
  start := by
    intro first rest hcs hfirst
    by_contra hrest
    rw [Bool.not_eq_true] at hrest
    have hreverse : ∀ c ∈ first.reverse, isIgnorable c = true := by
      simpa using hfirst
    have halone : lowerAt (first.reverse ++ []) 'Σ' (rest ++ []) = ['σ'] := by
      apply lowerAt_sigma_of_first
      rw [meetsCased_append_of_ignorable hreverse]
      rfl
    -- the letter in front makes the sigma the last letter of a word
    have hafter : lowerAt (first.reverse ++ ['a']) 'Σ' (rest ++ []) = ['ς'] := by
      apply lowerAt_sigma_of_final
      . rw [meetsCased_append_of_ignorable hreverse]
        decide +kernel
      . rw [List.append_nil, hrest]
    rw [lowerChars_cons_a, lowerChars_eq] at hfront
    have hlength := length_lowerBetween ['a'] [] cs [] []
    obtain ⟨c, h | h⟩ := eq_cons_or_concat_of_infix hfront (by simp [hlength])
    . exact lowerBetween_ne_of_sigma hcs halone hafter (List.cons.inj h).2.symm
    . rw [hcs, lowerBetween_append_sigma [], halone, List.append_assoc] at h
      exact cons_ne_append_cons (by decide) (not_mem_lowerBetween_of_ignorable hfirst _ _) h
  finish := by
    intro first rest hcs hrest
    by_contra hfirst
    rw [Bool.not_eq_false] at hfirst
    have halone : lowerAt (first.reverse ++ []) 'Σ' (rest ++ []) = ['ς'] := by
      apply lowerAt_sigma_of_final
      . rw [List.append_nil, hfirst]
      . rw [List.append_nil, meetsCased_of_ignorable hrest]
    -- the letter behind is the last letter of the word now
    have hbefore : lowerAt (first.reverse ++ []) 'Σ' (rest ++ ['a']) = ['σ'] := by
      apply lowerAt_sigma_of_inner
      rw [meetsCased_append_of_ignorable hrest]
      decide +kernel
    rw [lowerChars_concat_a, lowerChars_eq] at hback
    have hlength := length_lowerBetween [] [] cs ['a'] []
    obtain ⟨c, h | h⟩ := eq_cons_or_concat_of_infix hback (by simp [hlength])
    . rw [hcs, lowerBetween_append_sigma [] _ _ [], halone, ← List.cons_append] at h
      exact concat_ne_append_cons (by decide) (not_mem_lowerBetween_of_ignorable hrest _ _) h
    . exact lowerBetween_ne_of_sigma hcs hbefore halone (List.append_inj_left' h rfl)

theorem firm_iff (cs : List Char) :
    Firm cs ↔ ∀ text, cs <:+: text → lowerChars cs <:+: lowerChars text := by
  constructor
  . intro h text hcs
    exact h.infix_lowerChars hcs
  . intro h
    apply firm_of_infix
    . exact h _ (List.suffix_cons 'a' cs).isInfix
    . exact h _ (List.prefix_append cs ['a']).isInfix

end Text
end WeekMenu

import WeekMenu.Proofs.Text.Decompose

/-!
This module contains the folding of a part of a text. Two things may come in from the surroundings:
whether a capital sigma is the last letter of a word, and points that change places with points of
the part. The texts for which neither makes a difference are the sealed ones.
-/

namespace WeekMenu
namespace Text

open Decompose

def bare (cs : List Char) : List Char :=
  plain (order (parts cs))

theorem foldChars_eq (cs : List Char) : foldChars cs = lowerChars (bare cs) := by
  rw [bare, ← decompose_eq]
  rfl

/--
Nothing next to the text makes a difference to its folding: no point moves in among the marks at its
ends, and no sigma depends on the letters around it.
-/
structure Sealed (cs : List Char) : Prop where
  firm : Firm (bare cs)
  front : ∀ c ∈ frontMarks (parts cs), IsPoint c → ∀ x, IsPoint x → markClass x ≤ markClass c
  back : ∀ c ∈ backMarks (parts cs), IsPoint c → ∀ x, IsPoint x → markClass c ≤ markClass x

theorem frontMarks_append_of_mem {cs : List Char} {c : Char} (hmem : c ∈ cs)
    (hc : markClass c = 0) (ds : List Char) : frontMarks (cs ++ ds) = frontMarks cs := by
  induction cs with
  | nil => cases hmem
  | cons d cs ih =>
    unfold frontMarks
    rw [List.cons_append, List.takeWhile_cons, List.takeWhile_cons]
    split
    . next hd =>
      cases hmem with
      | head => simp [hc] at hd
      | tail _ hmem => exact congrArg (d :: ·) (ih hmem)
    . rfl

theorem frontMarks_of_marks {cs : List Char} (h : ∀ c ∈ cs, 0 < markClass c) :
    frontMarks cs = cs := by
  rw [frontMarks, List.takeWhile_eq_self_iff]
  simpa using h

theorem backMarks_of_marks {cs : List Char} (h : ∀ c ∈ cs, 0 < markClass c) :
    backMarks cs = cs := by
  rw [backMarks, List.rtakeWhile_eq_self_iff]
  simpa using h

theorem exists_isPoint_lt : ∃ x y, IsPoint x ∧ IsPoint y ∧ markClass x < markClass y :=
  ⟨'\u05B0', '\u05B1', ⟨by decide +kernel, by decide⟩, ⟨by decide +kernel, by decide⟩,
    by decide +kernel⟩

theorem Sealed.bare_eq_nil {cs : List Char} (h : Sealed cs)
    (hmarks : ∀ c ∈ parts cs, 0 < markClass c) : bare cs = [] := by
  rw [bare, plain, List.filter_eq_nil_iff]
  intro c hc
  rw [mem_order] at hc
  intro hkept
  have hpoint : IsPoint c := ⟨hmarks c hc, by simpa using hkept⟩
  -- a point would have to be of the greatest class of points and of the smallest one
  obtain ⟨x, y, hx, hy, hlt⟩ := exists_isPoint_lt
  have hfront := h.front c (by rwa [frontMarks_of_marks hmarks]) hpoint y hy
  have hback := h.back c (by rwa [backMarks_of_marks hmarks]) hpoint x hx
  omega

theorem Sealed.bare_append {cs : List Char} (h : Sealed cs) {c : Char} (hmem : c ∈ parts cs)
    (hc : markClass c = 0) (before after : List Char) :
    bare (before ++ (cs ++ after)) = bare before ++ (bare cs ++ bare after) := by
  unfold bare
  rw [parts_append, parts_append, plain_order_append, plain_order_append]
  . intro c hc d hd hcpoint hdpoint
    exact h.back c hc hcpoint d hdpoint
  . intro c hc' d hd hcpoint hdpoint
    rw [frontMarks_append_of_mem hmem hc] at hd
    exact h.front d hd hdpoint c hcpoint

theorem Sealed.infix_foldChars {cs text : List Char} (h : Sealed cs) (hcs : cs <:+: text) :
    foldChars cs <:+: foldChars text := by
  obtain ⟨before, after, rfl⟩ := hcs
  rw [foldChars_eq, foldChars_eq, List.append_assoc]
  by_cases hmarks : ∀ c ∈ parts cs, 0 < markClass c
  . rw [h.bare_eq_nil hmarks]
    exact List.nil_infix
  . push Not at hmarks
    obtain ⟨c, hmem, hc⟩ := hmarks
    apply h.firm.infix_lowerChars
    rw [h.bare_append hmem (by omega), ← List.append_assoc]
    exact List.infix_append _ _ _

theorem eq_of_cons_eq_concat {x y : Char} {cs : List Char} (h : x :: cs = cs ++ [y]) :
    ∀ c ∈ cs, c = x := by
  induction cs generalizing x with
  | nil => simp
  | cons d cs ih =>
    obtain ⟨rfl, hcs⟩ := List.cons.inj h
    exact List.forall_mem_cons.mpr ⟨rfl, ih hcs⟩

theorem eq_of_infix_insert {x : Char} {front back : List Char}
    (h : front ++ back <:+: front ++ x :: back) : (∀ c ∈ front, c = x) ∨ ∀ c ∈ back, c = x := by
  -- what is left of the longer text is its first character or its last one
  obtain ⟨y, hcons | hconcat⟩ := eq_cons_or_concat_of_infix h (by simp; omega)
  . left
    have happend : (y :: front) ++ back = (front ++ [x]) ++ back := by
      rw [List.append_assoc]
      exact hcons.symm
    have hfront : y :: front = front ++ [x] := List.append_cancel_right happend
    have hy := eq_of_cons_eq_concat hfront
    have hx : x ∈ y :: front := hfront ▸ List.mem_concat_self
    intro c hc
    rcases List.mem_cons.mp hx with rfl | hx
    . exact hy c hc
    . rw [hy c hc, hy x hx]
  . right
    rw [List.append_assoc] at hconcat
    exact eq_of_cons_eq_concat (List.append_cancel_left hconcat)

theorem eq_of_infix_insert_of_base {x : Char} {front back : List Char}
    (h : front ++ back <:+: front ++ x :: back) (hx : 0 < markClass x)
    (hbase : ∃ c ∈ front ++ back, markClass c = 0) :
    ((∀ c ∈ front, c = x) ∧ ∃ c ∈ back, markClass c = 0) ∨
      ((∃ c ∈ front, markClass c = 0) ∧ ∀ c ∈ back, c = x) := by
  obtain ⟨b, hb, hzero⟩ := hbase
  have hne : b ≠ x := by
    rintro rfl
    omega
  rcases eq_of_infix_insert h with heq | heq
  . have hnot : b ∉ front := fun hb => hne (heq b hb)
    exact Or.inl ⟨heq, b, (List.mem_append.mp hb).resolve_left hnot, hzero⟩
  . have hnot : b ∉ back := fun hb => hne (heq b hb)
    exact Or.inr ⟨⟨b, (List.mem_append.mp hb).resolve_right hnot, hzero⟩, heq⟩

theorem parts_cons (c : Char) (cs : List Char) : parts (c :: cs) = parts [c] ++ parts cs :=
  parts_append [c] cs

theorem IsPoint.parts_eq {x : Char} (h : IsPoint x) : parts [x] = [x] := by
  simp [parts, h.codePoint_eq]

theorem IsPoint.plain_cons {x : Char} (h : IsPoint x) (cs : List Char) :
    plain (x :: cs) = x :: plain cs := by
  simp [plain, h.kept]

theorem plain_marks {cs : List Char} (h : ∀ c ∈ cs, 0 < markClass c) :
    ∀ c ∈ plain cs, 0 < markClass c := by
  intro c hc
  exact h c (mem_plain_iff.mp hc).1

theorem exists_foldChars_cons (cs : List Char) {x : Char} (hx : IsPoint x) :
    ∃ front back, foldChars cs = front ++ back ∧ foldChars (x :: cs) = front ++ x :: back ∧
      (∀ c ∈ front, 0 < markClass c) ∧
      ∀ c ∈ frontMarks (parts cs), IsPoint c → markClass c < markClass x → c ∈ front := by
  obtain ⟨rest, hcs, hrest⟩ := exists_frontMarks (parts cs)
  have hmarks : ∀ c ∈ frontMarks (parts cs), 0 < markClass c := fun _ => mem_frontMarks
  obtain ⟨front, back, hsplit, hinsert, hfront, hback⟩ :=
    exists_insertMark (marks_order hmarks) (pairwise_order hmarks) x
  have hmfront : ∀ c ∈ front, 0 < markClass c :=
    (List.forall_mem_append.mp (hsplit ▸ marks_order hmarks)).1
  have horder : order (parts cs) = front ++ (back ++ order rest) := by
    rw [← List.append_assoc, ← hsplit, ← order_append_of_base hrest, ← hcs]
  have hcons : order (parts (x :: cs)) = front ++ x :: (back ++ order rest) := by
    have hparts : parts (x :: cs) = (x :: frontMarks (parts cs)) ++ rest := by
      rw [parts_cons, hx.parts_eq, List.singleton_append, List.cons_append, ← hcs]
    have hmark : order (x :: frontMarks (parts cs)) = front ++ x :: back := hinsert
    rw [hparts, order_append_of_base hrest, hmark, List.append_assoc, List.cons_append]
  refine ⟨plain front, lowerChars (plain (back ++ order rest)), ?_, ?_, plain_marks hmfront, ?_⟩
  . rw [foldChars_eq, bare, horder, plain_append, lowerChars_marks_append (plain_marks hmfront)]
  . rw [foldChars_eq, bare, hcons, plain_append, hx.plain_cons,
      lowerChars_marks_append (plain_marks hmfront), ← List.singleton_append,
      lowerChars_marks_append (by simpa using hx.mark)]
    rfl
  . intro c hc hpoint hlt
    rw [mem_plain_iff]
    refine ⟨?_, hpoint.kept⟩
    rw [← mem_order, hsplit] at hc
    rcases List.mem_append.mp hc with hc | hc
    . exact hc
    . have := hback c hc
      omega

theorem exists_foldChars_concat (cs : List Char) {x : Char} (hx : IsPoint x) :
    ∃ front back, foldChars cs = front ++ back ∧ foldChars (cs ++ [x]) = front ++ x :: back ∧
      (∀ c ∈ back, 0 < markClass c) ∧
      ∀ c ∈ backMarks (parts cs), IsPoint c → markClass x < markClass c → c ∈ back := by
  obtain ⟨start, hcs, hstart⟩ := exists_backMarks (parts cs)
  have hmarks : ∀ c ∈ backMarks (parts cs), 0 < markClass c := fun _ => mem_backMarks
  obtain ⟨front, back, hsplit, hconcat, hfront, hback⟩ := exists_order_concat hmarks hx.mark
  have hmback : ∀ c ∈ back, 0 < markClass c :=
    (List.forall_mem_append.mp (hsplit ▸ marks_order hmarks)).2
  have horder : order (parts cs) = (order start ++ front) ++ back := by
    rw [List.append_assoc, ← hsplit, ← order_base_append hstart, ← hcs]
  have hlast : order (parts (cs ++ [x])) = (order start ++ front) ++ x :: back := by
    rw [parts_append, hx.parts_eq, List.append_assoc, ← hconcat, ← order_base_append hstart,
      ← List.append_assoc, ← hcs]
  have hmlast : ∀ c ∈ x :: plain back, 0 < markClass c :=
    List.forall_mem_cons.mpr ⟨hx.mark, plain_marks hmback⟩
  refine ⟨lowerChars (plain (order start ++ front)), plain back, ?_, ?_, plain_marks hmback, ?_⟩
  . rw [foldChars_eq, bare, horder, plain_append, lowerChars_append_marks (plain_marks hmback)]
  . rw [foldChars_eq, bare, hlast, plain_append, hx.plain_cons, lowerChars_append_marks hmlast]
  . intro c hc hpoint hlt
    rw [mem_plain_iff]
    refine ⟨?_, hpoint.kept⟩
    rw [← mem_order, hsplit] at hc
    rcases List.mem_append.mp hc with hc | hc
    . have := hfront c hc
      omega
    . exact hc

theorem parts_a : parts ['a'] = ['a'] := by
  decide +kernel

theorem markClass_a : markClass 'a' = 0 := by
  decide +kernel

theorem bare_cons_a (cs : List Char) : bare ('a' :: cs) = 'a' :: bare cs := by
  rw [bare, parts_cons, parts_a, order_base_append (by simp [markClass_a]), plain_append]
  rfl

theorem bare_concat_a (cs : List Char) : bare (cs ++ ['a']) = bare cs ++ ['a'] := by
  rw [bare, parts_append, parts_a, order_append_of_base (by simp [markClass_a]), plain_append]
  rfl

theorem sealed_of_infix {cs : List Char} (hbase : ∃ c ∈ foldChars cs, markClass c = 0)
    (h : ∀ text, cs <:+: text → foldChars cs <:+: foldChars text) : Sealed cs where
  firm := by
    apply firm_of_infix
    . rw [← bare_cons_a]
      exact h _ (List.suffix_cons 'a' cs).isInfix
    . rw [← bare_concat_a]
      exact h _ (List.prefix_append cs ['a']).isInfix
  front := by
    intro c hc hpoint x hx
    by_contra hlt
    rw [not_le] at hlt
    -- `x` moves behind `c`, where only more of `x` could make up for it
    obtain ⟨front, back, hfold, hcons, hmarks, hmem⟩ := exists_foldChars_cons cs hx
    have hfound := h _ (List.suffix_cons x cs).isInfix
    rw [hfold, hcons] at hfound
    rw [hfold] at hbase
    rcases eq_of_infix_insert_of_base hfound hx.mark hbase with ⟨heq, _⟩ | ⟨⟨b, hb, hzero⟩, _⟩
    . rw [heq c (hmem c hc hpoint hlt)] at hlt
      exact lt_irrefl _ hlt
    . exact absurd hzero (hmarks b hb).ne'
  back := by
    intro c hc hpoint x hx
    by_contra hlt
    rw [not_le] at hlt
    obtain ⟨front, back, hfold, hconcat, hmarks, hmem⟩ := exists_foldChars_concat cs hx
    have hfound := h _ (List.prefix_append cs [x]).isInfix
    rw [hfold, hconcat] at hfound
    rw [hfold] at hbase
    rcases eq_of_infix_insert_of_base hfound hx.mark hbase with ⟨_, b, hb, hzero⟩ | ⟨_, heq⟩
    . exact absurd hzero (hmarks b hb).ne'
    . rw [heq c (hmem c hc hpoint hlt)] at hlt
      exact lt_irrefl _ hlt

theorem sealed_iff {cs : List Char} (hbase : ∃ c ∈ foldChars cs, markClass c = 0) :
    Sealed cs ↔ ∀ text, cs <:+: text → foldChars cs <:+: foldChars text := by
  constructor
  . intro h text hcs
    exact h.infix_foldChars hcs
  . intro h
    exact sealed_of_infix hbase h

example :
    foldChars ['ש', '\u05B8'] = ['ש', '\u05B8'] ∧
    foldChars ['ש', '\u05B8', '\u05B0'] = ['ש', '\u05B0', '\u05B8'] := by
  decide +kernel

theorem firm_of_ascii {cs : List Char} (h : ∀ c ∈ cs, c.toNat < 0x80) : Firm cs := by
  have hsigma : 'Σ' ∉ cs := fun hmem => absurd (h 'Σ' hmem) (by decide)
  constructor
  . rintro first rest rfl
    simp at hsigma
  . rintro first rest rfl
    simp at hsigma

theorem parts_of_ascii {cs : List Char} (h : ∀ c ∈ cs, c.toNat < 0x80) : parts cs = cs := by
  induction cs with
  | nil => rfl
  | cons c cs ih =>
    obtain ⟨hc, hcs⟩ := List.forall_mem_cons.mp h
    have hchar : parts [c] = [c] := by
      simp [parts, codePoint, Nat.lt_trans hc (by decide : 0x80 < 0xC0)]
    rw [parts_cons, hchar, ih hcs, List.singleton_append]

theorem sealed_of_ascii {cs : List Char} (h : ∀ c ∈ cs, c.toNat < 0x80) : Sealed cs where
  firm := by
    apply firm_of_ascii
    intro c hc
    rw [bare, mem_plain_iff, mem_order, parts_of_ascii h] at hc
    exact h c hc.1
  front := by
    intro c hc hpoint
    have hascii := h c (parts_of_ascii h ▸ frontMarks_subset _ hc)
    have := hpoint.lt_toNat
    omega
  back := by
    intro c hc hpoint
    have hascii := h c (parts_of_ascii h ▸ backMarks_subset _ hc)
    have := hpoint.lt_toNat
    omega

end Text
end WeekMenu

import WeekMenu.Proofs.Text.Points

/-!
This module contains facts about the order of marks in a decomposed text. Marks change places only
with the marks next to them, so two texts side by side are put in order one by one, unless a mark of
the first one belongs behind a mark of the second one.
-/

namespace WeekMenu
namespace Text
namespace Decompose

def parts (cs : List Char) : List Char :=
  cs.flatMap fun c => (codePoint c.toNat).map Char.ofNat

def order (cs : List Char) : List Char :=
  cs.foldr insertMark []

def plain (cs : List Char) : List Char :=
  cs.filter (!isAccent ·)

def frontMarks (cs : List Char) : List Char :=
  cs.takeWhile (0 < markClass ·)

def backMarks (cs : List Char) : List Char :=
  cs.rtakeWhile (0 < markClass ·)

theorem decompose_eq (cs : List Char) : decompose cs = order (parts cs) := by
  rfl

theorem order_cons (c : Char) (cs : List Char) : order (c :: cs) = insertMark c (order cs) := by
  rfl

theorem parts_append (cs ds : List Char) : parts (cs ++ ds) = parts cs ++ parts ds := by
  simp [parts]

theorem plain_append (cs ds : List Char) : plain (cs ++ ds) = plain cs ++ plain ds := by
  simp [plain]

theorem mem_plain_iff {c : Char} {cs : List Char} :
    c ∈ plain cs ↔ c ∈ cs ∧ isAccent c = false := by
  simp [plain]

theorem perm_insertMark (c : Char) (cs : List Char) : (insertMark c cs).Perm (c :: cs) := by
  induction cs with
  | nil => exact List.Perm.refl _
  | cons d cs ih =>
    unfold insertMark
    split
    . exact (ih.cons d).trans (List.Perm.swap c d cs)
    . exact List.Perm.refl _

theorem perm_order (cs : List Char) : (order cs).Perm cs := by
  induction cs with
  | nil => exact List.Perm.refl _
  | cons c cs ih => exact (perm_insertMark c (order cs)).trans (ih.cons c)

theorem mem_insertMark {c d : Char} {cs : List Char} : d ∈ insertMark c cs ↔ d = c ∨ d ∈ cs := by
  rw [(perm_insertMark c cs).mem_iff, List.mem_cons]

theorem mem_order {c : Char} {cs : List Char} : c ∈ order cs ↔ c ∈ cs :=
  (perm_order cs).mem_iff

theorem marks_order {cs : List Char} (h : ∀ c ∈ cs, 0 < markClass c) :
    ∀ c ∈ order cs, 0 < markClass c := by
  intro c hc
  exact h c (mem_order.mp hc)

theorem insertMark_of_le {c : Char} {cs : List Char}
    (h : ∀ d ∈ cs.head?, 0 < markClass d → markClass c ≤ markClass d) :
    insertMark c cs = c :: cs := by
  cases cs with
  | nil => rfl
  | cons d cs =>
    have hd := h d rfl
    rw [insertMark, if_neg]
    simp only [Bool.and_eq_true, decide_eq_true_eq]
    omega

theorem insertMark_of_base {c : Char} (h : markClass c = 0) (cs : List Char) :
    insertMark c cs = c :: cs := by
  apply insertMark_of_le
  intro d _ _
  omega

theorem insertMark_append_of_le {c : Char} {ds : List Char}
    (h : ∀ d ∈ ds.head?, 0 < markClass d → markClass c ≤ markClass d) (cs : List Char) :
    insertMark c (cs ++ ds) = insertMark c cs ++ ds := by
  induction cs with
  | nil => exact insertMark_of_le h
  | cons d cs ih =>
    rw [List.cons_append, insertMark, insertMark, ih]
    split <;> rfl

theorem insertMark_append_of_lt {c : Char} {cs : List Char}
    (h : ∀ d ∈ cs, 0 < markClass d ∧ markClass d < markClass c) (ds : List Char) :
    insertMark c (cs ++ ds) = cs ++ insertMark c ds := by
  induction cs with
  | nil => rfl
  | cons d cs ih =>
    obtain ⟨hd, hcs⟩ := List.forall_mem_cons.mp h
    rw [List.cons_append, insertMark, if_pos (by simpa using hd), ih hcs]
    rfl

theorem order_append_of_base {ds : List Char} (h : ∀ d ∈ ds.head?, markClass d = 0)
    (cs : List Char) : order (cs ++ ds) = order cs ++ order ds := by
  induction cs with
  | nil => rfl
  | cons c cs ih =>
    have hhead : ∀ d ∈ (order ds).head?, 0 < markClass d → markClass c ≤ markClass d := by
      cases ds with
      | nil => simp [order]
      | cons d ds =>
        have hd : markClass d = 0 := h d rfl
        rw [order_cons, insertMark_of_base hd]
        simp [hd]
    rw [List.cons_append, order_cons, order_cons, ih, insertMark_append_of_le hhead]

theorem order_base_append {cs : List Char} (h : ∀ c ∈ cs.getLast?, markClass c = 0)
    (ds : List Char) : order (cs ++ ds) = order cs ++ order ds := by
  rcases List.eq_nil_or_concat cs with rfl | ⟨front, c, rfl⟩
  . rfl
  . have hc : markClass c = 0 := by
      simpa using h
    have hlast : order (front ++ [c]) = order front ++ [c] :=
      order_append_of_base (by simpa using hc) front
    have hall : order (front ++ c :: ds) = order front ++ order (c :: ds) :=
      order_append_of_base (by simpa using hc) front
    have hcons : order (c :: ds) = c :: order ds := insertMark_of_base hc (order ds)
    rw [List.concat_eq_append, hlast, List.append_assoc, List.singleton_append, hall, hcons,
      List.append_assoc, List.singleton_append]

theorem exists_insertMark {cs : List Char} (hmarks : ∀ d ∈ cs, 0 < markClass d)
    (hsorted : cs.Pairwise (markClass · ≤ markClass ·)) (c : Char) :
    ∃ front back, cs = front ++ back ∧ insertMark c cs = front ++ c :: back ∧
      (∀ d ∈ front, markClass d < markClass c) ∧ ∀ d ∈ back, markClass c ≤ markClass d := by
  induction cs with
  | nil => exact ⟨[], [], rfl, rfl, by simp, by simp⟩
  | cons d cs ih =>
    obtain ⟨hd, hcs⟩ := List.forall_mem_cons.mp hmarks
    obtain ⟨hle, hsorted⟩ := List.pairwise_cons.mp hsorted
    by_cases hlt : markClass d < markClass c
    . obtain ⟨front, back, hsplit, hinsert, hfront, hback⟩ := ih hcs hsorted
      refine ⟨d :: front, back, by rw [hsplit, List.cons_append], ?_, ?_, hback⟩
      . rw [insertMark, if_pos (by simp [hd, hlt]), hinsert, List.cons_append]
      . exact List.forall_mem_cons.mpr ⟨hlt, hfront⟩
    . refine ⟨[], d :: cs, rfl, ?_, by simp, ?_⟩
      . rw [insertMark, if_neg (by simp [hlt]), List.nil_append]
      . rw [List.forall_mem_cons]
        refine ⟨by omega, ?_⟩
        intro e he
        have := hle e he
        omega

theorem pairwise_insertMark {cs : List Char} (hmarks : ∀ d ∈ cs, 0 < markClass d)
    (hsorted : cs.Pairwise (markClass · ≤ markClass ·)) (c : Char) :
    (insertMark c cs).Pairwise (markClass · ≤ markClass ·) := by
  obtain ⟨front, back, rfl, hinsert, hfront, hback⟩ := exists_insertMark hmarks hsorted c
  obtain ⟨hfronts, hbacks, hacross⟩ := List.pairwise_append.mp hsorted
  rw [hinsert, List.pairwise_append, List.pairwise_cons]
  refine ⟨hfronts, ⟨hback, hbacks⟩, ?_⟩
  intro d hd
  rw [List.forall_mem_cons]
  exact ⟨(hfront d hd).le, hacross d hd⟩

theorem pairwise_order {cs : List Char} (h : ∀ c ∈ cs, 0 < markClass c) :
    (order cs).Pairwise (markClass · ≤ markClass ·) := by
  induction cs with
  | nil => exact List.Pairwise.nil
  | cons c cs ih =>
    obtain ⟨_, hcs⟩ := List.forall_mem_cons.mp h
    exact pairwise_insertMark (marks_order hcs) (ih hcs) c

theorem plain_insertMark {cs : List Char} (hmarks : ∀ d ∈ cs, 0 < markClass d)
    (hsorted : cs.Pairwise (markClass · ≤ markClass ·)) (c : Char) :
    plain (insertMark c cs) = if isAccent c then plain cs else insertMark c (plain cs) := by
  obtain ⟨front, back, rfl, hinsert, hfront, hback⟩ := exists_insertMark hmarks hsorted c
  rw [hinsert, plain_append, plain_append]
  by_cases hc : isAccent c = true
  . rw [if_pos hc]
    simp [plain, hc]
  . have hfront' : ∀ d ∈ plain front, 0 < markClass d ∧ markClass d < markClass c := by
      intro d hd
      have hmem := (mem_plain_iff.mp hd).1
      exact ⟨hmarks d (List.mem_append_left back hmem), hfront d hmem⟩
    have hback' : ∀ d ∈ (plain back).head?, 0 < markClass d → markClass c ≤ markClass d := by
      intro d hd _
      exact hback d (mem_plain_iff.mp (List.mem_of_mem_head? hd)).1
    rw [if_neg hc, insertMark_append_of_lt hfront', insertMark_of_le hback']
    simp [plain, hc]

theorem plain_order {cs : List Char} (h : ∀ c ∈ cs, 0 < markClass c) :
    plain (order cs) = order (plain cs) := by
  induction cs with
  | nil => rfl
  | cons c cs ih =>
    obtain ⟨_, hcs⟩ := List.forall_mem_cons.mp h
    rw [order_cons, plain_insertMark (marks_order hcs) (pairwise_order hcs), ih hcs]
    by_cases hc : isAccent c = true
    . simp [plain, hc]
    . simp [plain, hc, order]

theorem order_append_of_le {cs ds : List Char}
    (h : ∀ c ∈ cs, ∀ d ∈ ds, markClass c ≤ markClass d) :
    order (cs ++ ds) = order cs ++ order ds := by
  induction cs with
  | nil => rfl
  | cons c cs ih =>
    obtain ⟨hc, hcs⟩ := List.forall_mem_cons.mp h
    rw [List.cons_append, order_cons, order_cons, ih hcs, insertMark_append_of_le]
    intro d hd _
    exact hc d (mem_order.mp (List.mem_of_mem_head? hd))

theorem exists_order_concat {cs : List Char} (h : ∀ c ∈ cs, 0 < markClass c) {x : Char}
    (hx : 0 < markClass x) :
    ∃ front back, order cs = front ++ back ∧ order (cs ++ [x]) = front ++ x :: back ∧
      (∀ c ∈ front, markClass c ≤ markClass x) ∧ ∀ c ∈ back, markClass x < markClass c := by
  induction cs with
  | nil => exact ⟨[], [], rfl, rfl, by simp, by simp⟩
  | cons c cs ih =>
    obtain ⟨_, hcs⟩ := List.forall_mem_cons.mp h
    obtain ⟨front, back, horder, hconcat, hfront, hback⟩ := ih hcs
    have hmarks : ∀ d ∈ front ++ back, 0 < markClass d := horder ▸ marks_order hcs
    rw [List.cons_append, order_cons, order_cons, horder, hconcat]
    -- `c` finds its place on the side of `x` where its class belongs, with or without `x`
    by_cases hc : markClass c ≤ markClass x
    . refine ⟨insertMark c front, back, ?_, ?_, ?_, hback⟩
      . apply insertMark_append_of_le
        intro d hd _
        have := hback d (List.mem_of_mem_head? hd)
        omega
      . apply insertMark_append_of_le
        simpa using fun _ => hc
      . intro d hd
        rcases mem_insertMark.mp hd with rfl | hd
        . exact hc
        . exact hfront d hd
    . have hfront' : ∀ d ∈ front, 0 < markClass d ∧ markClass d < markClass c := by
        intro d hd
        have := hfront d hd
        exact ⟨hmarks d (List.mem_append_left back hd), by omega⟩
      refine ⟨front, insertMark c back, ?_, ?_, hfront, ?_⟩
      . exact insertMark_append_of_lt hfront' back
      . rw [insertMark_append_of_lt hfront', insertMark, if_pos]
        simp only [Bool.and_eq_true, decide_eq_true_eq]
        omega
      . intro d hd
        rcases mem_insertMark.mp hd with rfl | hd
        . omega
        . exact hback d hd

theorem mem_frontMarks {c : Char} {cs : List Char} (h : c ∈ frontMarks cs) : 0 < markClass c := by
  simpa using List.mem_takeWhile_imp h

theorem mem_backMarks {c : Char} {cs : List Char} (h : c ∈ backMarks cs) : 0 < markClass c := by
  simpa using List.mem_rtakeWhile_imp h

theorem frontMarks_subset (cs : List Char) : frontMarks cs ⊆ cs :=
  (List.takeWhile_prefix _).subset

theorem backMarks_subset (cs : List Char) : backMarks cs ⊆ cs :=
  (List.rtakeWhile_suffix _ cs).subset

theorem exists_frontMarks (cs : List Char) :
    ∃ rest, cs = frontMarks cs ++ rest ∧ ∀ c ∈ rest.head?, markClass c = 0 := by
  refine ⟨cs.dropWhile (0 < markClass ·), (List.takeWhile_append_dropWhile).symm, ?_⟩
  intro c hc
  have hnot := List.head?_dropWhile_not (0 < markClass ·) cs
  rw [hc] at hnot
  simpa using hnot

theorem exists_backMarks (cs : List Char) :
    ∃ front, cs = front ++ backMarks cs ∧ ∀ c ∈ front.getLast?, markClass c = 0 := by
  obtain ⟨rest, hsplit, hrest⟩ := exists_frontMarks cs.reverse
  refine ⟨rest.reverse, ?_, by simpa using hrest⟩
  have hreverse := congrArg List.reverse hsplit
  rw [List.reverse_reverse, List.reverse_append] at hreverse
  exact hreverse

theorem plain_order_append {cs ds : List Char}
    (h : ∀ c ∈ backMarks cs, ∀ d ∈ frontMarks ds, IsPoint c → IsPoint d →
      markClass c ≤ markClass d) :
    plain (order (cs ++ ds)) = plain (order cs) ++ plain (order ds) := by
  obtain ⟨front, hcs, hfront⟩ := exists_backMarks cs
  obtain ⟨rest, hds, hrest⟩ := exists_frontMarks ds
  -- only the marks at the seam can change places, and the accents among them are left out
  have hmarks : plain (order (backMarks cs ++ frontMarks ds))
      =
    plain (order (backMarks cs)) ++ plain (order (frontMarks ds)) := by
    have hback : ∀ c ∈ backMarks cs, 0 < markClass c := fun _ => mem_backMarks
    have hstart : ∀ d ∈ frontMarks ds, 0 < markClass d := fun _ => mem_frontMarks
    rw [plain_order (List.forall_mem_append.mpr ⟨hback, hstart⟩), plain_order hback,
      plain_order hstart, plain_append]
    apply order_append_of_le
    intro c hc d hd
    obtain ⟨hc, hckept⟩ := mem_plain_iff.mp hc
    obtain ⟨hd, hdkept⟩ := mem_plain_iff.mp hd
    exact h c hc d hd ⟨hback c hc, hckept⟩ ⟨hstart d hd, hdkept⟩
  calc plain (order (cs ++ ds))
    _ = plain (order (front ++ ((backMarks cs ++ frontMarks ds) ++ rest))) := by
      rw [List.append_assoc, ← hds, ← List.append_assoc, ← hcs]
    _ = plain (order front) ++ (plain (order (backMarks cs ++ frontMarks ds)) ++
          plain (order rest)) := by
      rw [order_base_append hfront, order_append_of_base hrest, plain_append, plain_append]
    _ = plain (order (front ++ backMarks cs)) ++ plain (order (frontMarks ds ++ rest)) := by
      rw [hmarks, order_base_append hfront, order_append_of_base hrest, plain_append, plain_append,
        List.append_assoc, List.append_assoc]
    _ = plain (order cs) ++ plain (order ds) := by
      rw [← hcs, ← hds]

end Decompose
end Text
end WeekMenu

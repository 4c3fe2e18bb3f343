import WeekMenu.Proofs.Mail.Lines
import WeekMenu.Proofs.Text.Mark

/-!
This module contains what becomes of the marks of a template. The French list is put in first, and
the English mark is looked for in what results, so that an English mark that comes into being with
the French list is taken for the one of the template.
-/

namespace WeekMenu
namespace Mail

open Text (IsMark StartsIn startsIn_cons infix_of_startsIn_nil)

/--
The template with texts in the places of its marks. Each mark counts where it occurs first in the
template; a mark that does not occur is ignored.
-/
def fill (marks : List (List Char × List Char)) (template : List Char) : List Char :=
  go marks 0 template
where
  go (marks : List (List Char × List Char)) (skip : Nat) : List Char → List Char
    | [] => []
    | c :: rest =>
      match skip with
      | skip + 1 => go marks skip rest
      | 0 =>
        match marks.find? fun m => m.1.isPrefixOf (c :: rest) with
        | some m => m.2 ++ go (marks.erase m) (m.1.length - 1) rest
        | none => c :: go marks 0 rest

theorem isMark_frenchMark : IsMark '\x7b' frenchMark.toList :=
  ⟨"français\x7d".toList, by simp [frenchMark]⟩

theorem isMark_englishMark : IsMark '\x7b' englishMark.toList :=
  ⟨"anglais\x7d".toList, by simp [englishMark]⟩

section Replace

variable {opening : Char} {mark before rest : List Char}

theorem replaceFirst_append_of_not_startsIn (replacement : List Char)
    (h : ¬StartsIn mark before rest) :
    replaceFirst mark replacement (before ++ rest)
      =
    before ++ replaceFirst mark replacement rest := by
  induction before with
  | nil => rfl
  | cons c before ih =>
    rw [startsIn_cons, not_or] at h
    rw [List.cons_append, replaceFirst, if_neg (by simpa using h.1), ih h.2]
    rfl

theorem replaceFirst_of_absent (hm : IsMark opening mark) (replacement : List Char)
    {cs : List Char} (h : ¬mark <:+: cs) : replaceFirst mark replacement cs = cs := by
  have hstarts : ¬StartsIn mark cs [] := mt infix_of_startsIn_nil h
  obtain ⟨name, rfl, _⟩ := hm
  have hcs := replaceFirst_append_of_not_startsIn replacement hstarts
  simpa [replaceFirst] using hcs

theorem replaceFirst_append (hm : IsMark opening mark) (replacement after : List Char) :
    replaceFirst mark replacement (mark ++ after) = replacement ++ after := by
  have hprefix : mark.isPrefixOf (mark ++ after) = true := by simp
  have hdrop : (mark ++ after).drop mark.length = after := List.drop_left
  obtain ⟨name, rfl, _⟩ := hm
  rw [List.cons_append] at hprefix hdrop ⊢
  rw [replaceFirst, if_pos hprefix, hdrop]

theorem replaceFirst_first (hm : IsMark opening mark) (hbefore : ¬mark <:+: before)
    (replacement after : List Char) :
    replaceFirst mark replacement (before ++ (mark ++ after))
      =
    before ++ (replacement ++ after) := by
  rw [replaceFirst_append_of_not_startsIn, replaceFirst_append hm]
  intro hstarts
  exact hbefore (hm.infix_of_startsIn_append hm hstarts)

end Replace

section Fill

variable {opening : Char} {marks : List (List Char × List Char)} {before rest : List Char}

theorem go_fill_skip (marks : List (List Char × List Char)) (skipped rest : List Char) :
    fill.go marks skipped.length (skipped ++ rest) = fill.go marks 0 rest := by
  induction skipped with
  | nil => rfl
  | cons c skipped ih => exact ih

theorem go_fill_append (h : ∀ m ∈ marks, ¬StartsIn m.1 before rest) :
    fill.go marks 0 (before ++ rest) = before ++ fill.go marks 0 rest := by
  induction before with
  | nil => rfl
  | cons c before ih =>
    have hnone : marks.find? (fun m => m.1.isPrefixOf (c :: (before ++ rest))) = none := by
      rw [List.find?_eq_none]
      intro m hm hprefix
      apply h m hm
      rw [startsIn_cons]
      exact Or.inl (List.isPrefixOf_iff_prefix.mp hprefix)
    rw [List.cons_append, fill.go, hnone]
    dsimp only
    rw [ih, List.cons_append]
    intro m hm hstarts
    apply h m hm
    rw [startsIn_cons]
    exact Or.inr hstarts

theorem go_fill_of_absent {cs : List Char} (h : ∀ m ∈ marks, ¬m.1 <:+: cs) :
    fill.go marks 0 cs = cs := by
  have hcs : fill.go marks 0 (cs ++ []) = cs ++ fill.go marks 0 [] := by
    apply go_fill_append
    intro m hm hstarts
    exact h m hm (infix_of_startsIn_nil hstarts)
  simpa [fill.go] using hcs

theorem go_fill_mark {m : List Char × List Char} (hm : IsMark opening m.1) (after : List Char)
    (h : marks.find? (fun k => k.1.isPrefixOf (m.1 ++ after)) = some m) :
    fill.go marks 0 (m.1 ++ after) = m.2 ++ fill.go (marks.erase m) 0 after := by
  obtain ⟨name, hname, _⟩ := hm
  rw [hname, List.cons_append] at h ⊢
  rw [fill.go, h]
  dsimp only
  rw [hname, List.length_cons, Nat.add_sub_cancel, go_fill_skip]

theorem go_fill_single {mark : List Char} (hm : IsMark opening mark) (text cs : List Char) :
    fill.go [(mark, text)] 0 cs = replaceFirst mark text cs := by
  by_cases hmark : mark <:+: cs
  . obtain ⟨before, after, rfl, hbefore⟩ := hm.exists_first hmark
    rw [replaceFirst_first hm hbefore, go_fill_append, go_fill_mark (m := (mark, text)) hm]
    . simp [go_fill_of_absent]
    . simp
    . simp only [List.mem_singleton, forall_eq]
      intro hstarts
      exact hbefore (hm.infix_of_startsIn_append hm hstarts)
  . rw [replaceFirst_of_absent hm text hmark, go_fill_of_absent]
    simpa using hmark

end Fill

def marks (french english : List Char) : List (List Char × List Char) :=
  [(frenchMark.toList, french), (englishMark.toList, english)]

/--
With the French list in its place, an English mark starts in front of the end of this list, and it
is none of the template's own.
-/
def MakesMark (french template : List Char) : Prop :=
  ∃ before after, template = before ++ (frenchMark.toList ++ after) ∧
    ¬frenchMark.toList <:+: before ∧ ¬englishMark.toList <:+: before ∧
    StartsIn englishMark.toList (before ++ french) after

def PartsMark (template : List Char) : Prop :=
  ∃ before start tail after, englishMark.toList = start ++ tail ∧
    template = before ++ start ++
      (frenchMark.toList ++ (tail ++ (englishMark.toList ++ after))) ∧
    ¬frenchMark.toList <:+: before ++ start ∧ ¬englishMark.toList <:+: before ++ start

section Marks

variable {french english before after template : List Char}

theorem go_fill_french (hfrench : ¬frenchMark.toList <:+: before)
    (henglish : ¬englishMark.toList <:+: before) :
    fill.go (marks french english) 0 (before ++ (frenchMark.toList ++ after))
      =
    before ++ (french ++ replaceFirst englishMark.toList english after) := by
  rw [go_fill_append, go_fill_mark (m := (frenchMark.toList, french)) isMark_frenchMark]
  . rw [← go_fill_single isMark_englishMark]
    simp [marks]
  . simp [marks]
  . simp only [marks, List.forall_mem_cons]
    refine ⟨?_, ?_, by simp⟩
    . exact mt (isMark_frenchMark.infix_of_startsIn_append isMark_frenchMark) hfrench
    . exact mt (isMark_englishMark.infix_of_startsIn_append isMark_frenchMark) henglish

theorem go_fill_english (hfrench : ¬frenchMark.toList <:+: before)
    (henglish : ¬englishMark.toList <:+: before) :
    fill.go (marks french english) 0 (before ++ (englishMark.toList ++ after))
      =
    before ++ (english ++ replaceFirst frenchMark.toList french after) := by
  have hne : frenchMark.toList ≠ englishMark.toList := by simp [frenchMark, englishMark]
  have hprefix : ¬frenchMark.toList <+: englishMark.toList ++ after := by
    rw [← List.isPrefixOf_iff_prefix]
    exact Bool.false_ne_true
  rw [go_fill_append, go_fill_mark (m := (englishMark.toList, english)) isMark_englishMark]
  . rw [← go_fill_single isMark_frenchMark]
    simp [marks, hne]
  . simp [marks, hprefix]
  . simp only [marks, List.forall_mem_cons]
    refine ⟨?_, ?_, by simp⟩
    . exact mt (isMark_frenchMark.infix_of_startsIn_append isMark_englishMark) hfrench
    . exact mt (isMark_englishMark.infix_of_startsIn_append isMark_englishMark) henglish

theorem fill_of_absent (h : ¬frenchMark.toList <:+: template) :
    fill (marks french english) template = replaceFirst englishMark.toList english template := by
  unfold fill
  by_cases henglish : englishMark.toList <:+: template
  . obtain ⟨before, after, rfl, hbefore⟩ := isMark_englishMark.exists_first henglish
    have hfrench : ¬frenchMark.toList <:+: before := mt List.infix_append_of_infix_left h
    have hafter : ¬frenchMark.toList <:+: after := by
      intro hmark
      apply h
      exact List.infix_append_of_infix_right (List.infix_append_of_infix_right hmark)
    rw [go_fill_english hfrench hbefore, replaceFirst_first isMark_englishMark hbefore,
      replaceFirst_of_absent isMark_frenchMark french hafter]
  . rw [replaceFirst_of_absent isMark_englishMark english henglish, go_fill_of_absent]
    simp [marks, h, henglish]

theorem makesMark_iff (h : ¬frenchMark.toList <:+: before) :
    MakesMark french (before ++ (frenchMark.toList ++ after)) ↔
      ¬englishMark.toList <:+: before ∧ StartsIn englishMark.toList (before ++ french) after := by
  constructor
  . rintro ⟨before', after', hsplit, hbefore', henglish, hstarts⟩
    obtain ⟨rfl, rfl⟩ := isMark_frenchMark.eq_of_first h hbefore' hsplit
    exact ⟨henglish, hstarts⟩
  . rintro ⟨henglish, hstarts⟩
    exact ⟨before, after, rfl, h, henglish, hstarts⟩

theorem not_makesMark_of_absent (h : ¬frenchMark.toList <:+: template) :
    ¬MakesMark french template := by
  rintro ⟨before, after, rfl, _⟩
  apply h
  apply List.infix_append'

theorem replaceFirst_of_present (h : ¬frenchMark.toList <:+: before)
    (henglish : englishMark.toList <:+: before) :
    replaceFirst englishMark.toList english (before ++ (french ++ after))
      =
    fill (marks french english) (before ++ (frenchMark.toList ++ after)) := by
  obtain ⟨first, second, rfl, hfirst⟩ := isMark_englishMark.exists_first henglish
  have hfrench : ¬frenchMark.toList <:+: first := mt List.infix_append_of_infix_left h
  have hsecond : ¬frenchMark.toList <:+: second := by
    intro hmark
    apply h
    exact List.infix_append_of_infix_right (List.infix_append_of_infix_right hmark)
  unfold fill
  simp only [List.append_assoc]
  rw [go_fill_english hfrench hfirst, replaceFirst_first isMark_englishMark hfirst,
    replaceFirst_first isMark_frenchMark hsecond]

theorem replaceFirst_of_not_startsIn (h : ¬frenchMark.toList <:+: before)
    (henglish : ¬englishMark.toList <:+: before)
    (hstarts : ¬StartsIn englishMark.toList (before ++ french) after) :
    replaceFirst englishMark.toList english (before ++ (french ++ after))
      =
    fill (marks french english) (before ++ (frenchMark.toList ++ after)) := by
  unfold fill
  rw [go_fill_french h henglish, ← List.append_assoc,
    replaceFirst_append_of_not_startsIn english hstarts, List.append_assoc]

theorem replaceFirst_ne_of_startsIn (h : ¬frenchMark.toList <:+: before)
    (henglish : ¬englishMark.toList <:+: before)
    (hstarts : StartsIn englishMark.toList (before ++ french) after)
    (hlist : english.head? = some '-') :
    replaceFirst englishMark.toList english (before ++ (french ++ after))
      ≠
    fill (marks french english) (before ++ (frenchMark.toList ++ after)) := by
  obtain ⟨first, start, rest, hfirst, hstart, hsplit, hnot⟩ :=
    isMark_englishMark.exists_start hstarts
  have hbrace : start.head? = some '\x7b' := by
    rw [← List.head?_append_of_ne_nil start hstart, hsplit, isMark_englishMark.head?_append]
  unfold fill
  rw [go_fill_french h henglish, ← List.append_assoc, ← List.append_assoc, hfirst,
    List.append_assoc, List.append_assoc, hsplit, replaceFirst_first isMark_englishMark hnot]
  intro heq
  have hhead := congrArg List.head? (List.append_cancel_left heq)
  rw [List.head?_append, hlist, List.head?_append_of_ne_nil start hstart, hbrace] at hhead
  cases hhead

theorem replaceFirst_nil_eq_fill_iff (h : ¬frenchMark.toList <:+: before)
    (henglish : ¬englishMark.toList <:+: before)
    (hstarts : StartsIn englishMark.toList before after) :
    replaceFirst englishMark.toList [] (before ++ after)
        = fill (marks [] []) (before ++ (frenchMark.toList ++ after))
      ↔
    PartsMark (before ++ (frenchMark.toList ++ after)) := by
  obtain ⟨first, start, rest, rfl, hstart, hsplit, hnot⟩ :=
    isMark_englishMark.exists_start hstarts
  obtain ⟨tail, hmark, rfl⟩ | ⟨tail, rfl, _⟩ := List.append_eq_append_iff.mp hsplit
  . have hbrace := isMark_englishMark.not_mem_of_suffix hstart hmark
    have htail := isMark_englishMark.not_startsIn_of_not_mem hbrace rest
    have hleft : replaceFirst englishMark.toList [] (first ++ start ++ (tail ++ rest))
        = first ++ rest := by
      rw [List.append_assoc, hsplit, replaceFirst_first isMark_englishMark hnot]
      rfl
    have hright : fill (marks [] []) (first ++ start ++ (frenchMark.toList ++ (tail ++ rest)))
        = first ++ (englishMark.toList ++ replaceFirst englishMark.toList [] rest) := by
      unfold fill
      rw [go_fill_french h henglish, replaceFirst_append_of_not_startsIn [] htail, hmark]
      simp only [List.nil_append, List.append_assoc]
    rw [hleft, hright, List.append_cancel_left_eq]
    constructor
    . intro hrest
      refine ⟨first, start, tail, replaceFirst englishMark.toList [] rest, hmark, ?_, h, henglish⟩
      rw [← hrest]
    . rintro ⟨first', start', tail', rest', hmark', htemplate, hfrench', henglish'⟩
      obtain ⟨hfirst, htailrest⟩ := isMark_frenchMark.eq_of_first h hfrench' htemplate
      -- The mark that the French one parts is the first one without it, in both descriptions.
      have hsame : first ++ (englishMark.toList ++ rest)
          = first' ++ (englishMark.toList ++ (englishMark.toList ++ rest')) := by
        rw [← hsplit, htailrest, ← List.append_assoc, hfirst]
        nth_rewrite 2 [hmark']
        simp only [List.append_assoc]
      obtain ⟨_, rfl⟩ := isMark_englishMark.eq_of_first hnot
        (mt List.infix_append_of_infix_left henglish') hsame
      rw [replaceFirst_append isMark_englishMark]
      rfl
  . exact absurd (List.infix_append' _ _ _) henglish

theorem replaceFirst_eq_fill_iff
    (hlists : french = [] ∧ english = [] ∨ english.head? = some '-') :
    replaceFirst englishMark.toList english (replaceFirst frenchMark.toList french template)
        = fill (marks french english) template
      ↔
    ¬MakesMark french template ∨ french = [] ∧ english = [] ∧ PartsMark template := by
  by_cases hmark : frenchMark.toList <:+: template
  . obtain ⟨before, after, rfl, hbefore⟩ := isMark_frenchMark.exists_first hmark
    rw [replaceFirst_first isMark_frenchMark hbefore, makesMark_iff hbefore]
    by_cases henglish : englishMark.toList <:+: before
    . simp [replaceFirst_of_present hbefore henglish, henglish]
    . by_cases hstarts : StartsIn englishMark.toList (before ++ french) after
      . rcases hlists with ⟨rfl, rfl⟩ | hlist
        . rw [List.append_nil] at hstarts
          have hiff := replaceFirst_nil_eq_fill_iff hbefore henglish hstarts
          simpa [henglish, hstarts] using hiff
        . have hne := replaceFirst_ne_of_startsIn hbefore henglish hstarts hlist
          have hlist' : english ≠ [] := by
            rintro rfl
            cases hlist
          simp [hne, henglish, hstarts, hlist']
      . simp [replaceFirst_of_not_startsIn hbefore henglish hstarts, hstarts]
  . simp [replaceFirst_of_absent isMark_frenchMark french hmark, fill_of_absent hmark,
      not_makesMark_of_absent hmark]

end Marks

/--
The mail is the template with both lists in the places of its own marks, unless the French list
makes an English mark: then the English list is put in there. With empty lists this makes no
difference if the template's own mark comes right behind.
-/
theorem render_eq_fill_iff (g : Grid) (ingredients : IngredientTable) (template : String) :
    let listed := rows g ingredients
    let french := (list (·.french) listed).toList
    let english := (list (·.english) listed).toList
    render g ingredients template
        = String.ofList (fill [(frenchMark.toList, french), (englishMark.toList, english)]
            template.toList)
      ↔
    ¬MakesMark french template.toList ∨ listed = [] ∧ PartsMark template.toList := by
  intro listed french english
  have hfrench : french = lines (·.french) listed := toList_list _ _
  have henglish : english = lines (·.english) listed := toList_list _ _
  have hlists : french = [] ∧ english = [] ∨ english.head? = some '-' := by
    rw [hfrench, henglish]
    by_cases hlisted : listed = []
    . rw [hlisted]
      exact Or.inl ⟨rfl, rfl⟩
    . exact Or.inr (head?_lines _ hlisted)
  have hempty : listed = [] ↔ french = [] ∧ english = [] := by
    constructor
    . intro hlisted
      rw [hfrench, henglish, hlisted]
      exact ⟨rfl, rfl⟩
    . rintro ⟨hnil, _⟩
      by_contra hlisted
      have hhead := head?_lines (·.french) hlisted
      rw [← hfrench, hnil] at hhead
      cases hhead
  rw [hempty, and_assoc, ← replaceFirst_eq_fill_iff hlists]
  exact ⟨String.ofList_injective, congrArg String.ofList⟩

theorem render_fills_text_of_meal :
    let g : Grid := ⟨[⟨.meal ⟨"Club", ""⟩, .unset⟩]⟩
    let ingredients : IngredientTable := ⟨[⟨"Club", "pain \x7banglais\x7d", "bread"⟩]⟩
    let template := "FR:\n\x7bfrançais\x7d\nEN:\n\x7banglais\x7d\n"
    let french := (list (·.french) (rows g ingredients)).toList
    let english := (list (·.english) (rows g ingredients)).toList
    render g ingredients template
      = "FR:\n- Club: pain - Club: bread\nEN:\n\x7banglais\x7d\n" ∧
    String.ofList (fill [(frenchMark.toList, french), (englishMark.toList, english)]
        template.toList)
      = "FR:\n- Club: pain \x7banglais\x7d\nEN:\n- Club: bread\n" := by
  decide +kernel

end Mail
end WeekMenu

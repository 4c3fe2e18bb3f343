import WeekMenu.Proofs.Storage.FileTree
import WeekMenu.Proofs.Text.Blank

/-!
This module contains facts about paths: a name in a directory is one step behind the steps of the
directory, and another extension changes the last name of a path only.
-/

namespace WeekMenu

structure FileName (name : String) : Prop where
  ne_empty : name ≠ ""
  no_slash : '/' ∉ name.toList
  ne_here : name ≠ "."
  ne_above : name ≠ ".."

namespace FileTree

def namesOf (path : String) : List String :=
  (if path.startsWith "/" then ["/"] else []) ++
    ((Text.splitOn '/' path.toList).map String.ofList).filter (!·.isEmpty)

theorem steps_eq (path : String) :
    steps path = namesOf path ++ if path.endsWith "/" then ["."] else [] := by
  rfl

theorem endsWith_slash_iff {path : String} :
    path.endsWith "/" = true ↔ ∃ before, path = before ++ "/" := by
  rw [String.endsWith_eq_endsWith_toSlice, String.Slice.endsWith_string_iff]
  constructor
  . rintro ⟨before, h⟩
    refine ⟨String.ofList before, ?_⟩
    rw [← String.toList_inj]
    simpa using h.symm
  . rintro ⟨before, rfl⟩
    exact ⟨before.toList, by simp⟩

theorem startsWith_slash_append {path : String} (h : path ≠ "") (rest : String) :
    (path ++ rest).startsWith "/" = path.startsWith "/" := by
  rw [Bool.eq_iff_iff, String.startsWith_string_iff, String.startsWith_string_iff,
    String.toList_append]
  cases hpath : path.toList with
  | nil => exact absurd (String.toList_eq_nil_iff.mp hpath) h
  | cons c cs =>
    change ['/'] <+: c :: (cs ++ rest.toList) ↔ ['/'] <+: c :: cs
    simp [List.cons_prefix_cons]

theorem namesOf_slash_append (path : String) {name : String} (h : FileName name) :
    namesOf (path ++ "/" ++ name) = namesOf (path ++ "/") ++ [name] := by
  have hstart : (path ++ "/" ++ name).startsWith "/" = (path ++ "/").startsWith "/" := by
    apply startsWith_slash_append
    simp
  have hslash : (path ++ "/").toList = path.toList ++ '/' :: [] := by simp
  have hname : (path ++ "/" ++ name).toList = path.toList ++ '/' :: name.toList := by simp
  unfold namesOf
  rw [hstart, hslash, hname, Text.splitOn_append_sep, Text.splitOn_append_sep,
    Text.splitOn_of_not_mem h.no_slash]
  simp [Text.splitOn, h.ne_empty]

theorem namesOf_append_slash {path : String} (h : path ≠ "") :
    namesOf (path ++ "/") = namesOf path := by
  have hslash : (path ++ "/").toList = path.toList ++ '/' :: [] := by simp
  unfold namesOf
  rw [startsWith_slash_append h, hslash, Text.splitOn_append_sep]
  simp [Text.splitOn]

theorem not_endsWith_slash (path : String) {name : String} (h : FileName name) :
    ¬(path ++ name).endsWith "/" = true := by
  rw [endsWith_slash_iff]
  rintro ⟨before, hbefore⟩
  have hlast := congrArg (·.toList.getLast?) hbefore
  simp only [String.toList_append] at hlast
  have hne : name.toList ≠ [] := by simpa using h.ne_empty
  rw [List.getLast?_append_of_ne_nil _ hne, List.getLast?_append_of_ne_nil _ (by decide)] at hlast
  exact h.no_slash (List.mem_of_getLast? hlast)

theorem namesOf_fileName {name : String} (h : FileName name) : namesOf name = [name] := by
  have hstart : ¬name.startsWith "/" = true := by
    rw [String.startsWith_string_iff]
    intro hslash
    exact h.no_slash (hslash.subset (by simp))
  unfold namesOf
  rw [if_neg hstart, Text.splitOn_of_not_mem h.no_slash]
  simp [h.ne_empty]

theorem namesOf_append {before name : String} (hbefore : ∀ c ∈ before.toList.getLast?, c = '/')
    (h : FileName name) : namesOf (before ++ name) = namesOf before ++ [name] := by
  cases hlast : before.toList.getLast? with
  | none =>
    have hempty : before = "" := by simpa using hlast
    rw [hempty, String.empty_append, namesOf_fileName h]
    rfl
  | some c =>
    obtain rfl := hbefore c hlast
    obtain ⟨cs, hcs⟩ := List.getLast?_eq_some_iff.mp hlast
    have hslash : before = String.ofList cs ++ "/" := by
      rw [← String.toList_inj]
      simpa using hcs
    rw [hslash, namesOf_slash_append _ h]

theorem exists_joinPath (directory : String) :
    ∃ before, (∀ c ∈ before.toList.getLast?, c = '/') ∧ namesOf before = namesOf directory ∧
      ∀ name, joinPath directory name = before ++ name := by
  unfold joinPath
  split
  . next hdirectory =>
    refine ⟨directory, fun c hc => ?_, rfl, fun _ => rfl⟩
    simp only [Bool.or_eq_true, String.isEmpty_iff, beq_iff_eq] at hdirectory
    rcases hdirectory with rfl | hslash
    . cases hc
    . rw [hslash] at hc
      exact (Option.some.inj hc).symm
  . next hdirectory =>
    have hne : directory ≠ "" := by
      rintro rfl
      exact hdirectory rfl
    refine ⟨directory ++ "/", fun c hc => ?_, namesOf_append_slash hne, fun _ => rfl⟩
    simpa using hc.symm

theorem steps_joinPath (directory : String) {name : String} (h : FileName name) :
    steps (joinPath directory name) = namesOf directory ++ [name] := by
  obtain ⟨before, hbefore, hnames, hjoin⟩ := exists_joinPath directory
  rw [hjoin, steps_eq, if_neg (not_endsWith_slash _ h), List.append_nil,
    namesOf_append hbefore h, hnames]

end FileTree

theorem withExtension_of_toList {path : String} {directory stem old : List Char}
    (h : path.toList = directory ++ (stem ++ '.' :: old))
    (hdirectory : ∀ c ∈ directory.getLast?, c = '/') (hne : stem ≠ [])
    (hslash : '/' ∉ stem ++ old) (hdot : '.' ∉ old) (extension : String) :
    withExtension path extension = String.ofList (directory ++ stem) ++ "." ++ extension := by
  have hreverse : path.toList.reverse = (stem ++ '.' :: old).reverse ++ directory.reverse := by
    rw [h, List.reverse_append]
  have hname : ∀ c ∈ (stem ++ '.' :: old).reverse, (c != '/') = true := by
    intro c hc
    simp only [bne_iff_ne]
    rintro rfl
    simp_all
  have hstop : directory.reverse.takeWhile (· != '/') = [] ∧
      directory.reverse.dropWhile (· != '/') = directory.reverse := by
    cases hcs : directory.reverse with
    | nil => simp
    | cons c cs =>
      have hc := hdirectory c (by rw [← List.head?_reverse, hcs]; rfl)
      simp [hc]
  have hold : ∀ c ∈ old.reverse, (c != '.') = true := by
    intro c hc
    simp only [bne_iff_ne]
    rintro rfl
    exact hdot (List.mem_reverse.mp hc)
  obtain ⟨last, others, hstem⟩ := List.exists_cons_of_ne_nil (List.reverse_ne_nil_iff.mpr hne)
  unfold withExtension
  dsimp only
  rw [hreverse, List.takeWhile_append_of_pos hname, List.dropWhile_append_of_pos hname, hstop.1,
    hstop.2, List.append_nil]
  have hextension : (stem ++ '.' :: old).reverse.dropWhile (· != '.') = '.' :: stem.reverse := by
    rw [List.reverse_append, List.reverse_cons, List.append_assoc,
      List.dropWhile_append_of_pos hold]
    rfl
  rw [hextension, hstem]
  dsimp only
  rw [← hstem, ← List.reverse_append, List.reverse_reverse]

theorem withExtension_joinPath (directory : String) {stem old : String} (hne : stem ≠ "")
    (hslash : '/' ∉ stem.toList ++ old.toList) (hdot : '.' ∉ old.toList) (extension : String) :
    withExtension (joinPath directory (stem ++ "." ++ old)) extension =
      joinPath directory (stem ++ "." ++ extension) := by
  obtain ⟨before, hbefore, _, hjoin⟩ := FileTree.exists_joinPath directory
  have hpath : (before ++ (stem ++ "." ++ old)).toList =
      before.toList ++ (stem.toList ++ '.' :: old.toList) := by
    simp
  have hstem : stem.toList ≠ [] := by simpa using hne
  rw [hjoin, hjoin, withExtension_of_toList hpath hbefore hstem hslash hdot, ← String.toList_inj]
  simp

end WeekMenu

import WeekMenu.Proofs.Storage.Directory

/-!
This module contains facts about the files of the keys of a folder: each key has a file of its own,
which is not the one that its text or that of another key is first written to, so that only the last
operation of a `set` changes what is read.
-/

namespace WeekMenu
namespace Folder

open FileTree (HasDirectory)

variable {root key : String} {t u : FileTree} {place : List String}

theorem not_mem_of_isKey (h : isKey key = true) {c : Char} (hc : c.isAlphanum = false)
    (hlow : c ≠ '_') (hdash : c ≠ '-') : c ∉ key.toList := by
  intro hmem
  simp only [isKey, Bool.and_eq_true, List.all_eq_true] at h
  simpa [hc, hlow, hdash] using h.2 c hmem

theorem fileName_of_isKey (h : isKey key = true) {ending : String} (hslash : '/' ∉ ending.toList) :
    FileName (key ++ ending) := by
  have hkey : '/' ∉ key.toList := not_mem_of_isKey h rfl (by decide) (by decide)
  have hdot : '.' ∉ key.toList := not_mem_of_isKey h rfl (by decide) (by decide)
  have hne : key.toList ≠ [] := by
    rintro hnil
    rw [String.toList_eq_nil_iff.mp hnil] at h
    cases h
  obtain ⟨c, cs, hcs⟩ := List.exists_cons_of_ne_nil hne
  have hfirst : c ≠ '.' := by
    rintro rfl
    exact hdot (by simp [hcs])
  constructor
  . rw [ne_eq, ← String.toList_inj]
    simp [hcs]
  . simp [hkey, hslash]
  . rw [ne_eq, ← String.toList_inj]
    simp [hcs, hfirst]
  . rw [ne_eq, ← String.toList_inj]
    simp [hcs, hfirst]

theorem writeOperations_of_isKey (h : isKey key = true) (root value : String) :
    writeOperations root key value =
      .ok [.createDirectories root, .write (joinPath root (key ++ ".json.tmp")) value,
        .rename (joinPath root (key ++ ".json.tmp")) (joinPath root (key ++ ".json"))] := by
  have hne : key ≠ "" := by
    rintro rfl
    cases h
  have hslash : '/' ∉ key.toList ++ "json".toList := by
    have hkey : '/' ∉ key.toList := not_mem_of_isKey h rfl (by decide) (by decide)
    simpa using hkey
  have htemporary := withExtension_joinPath root hne hslash (by decide) "json.tmp"
  rw [String.append_assoc, String.append_assoc] at htemporary
  change withExtension (joinPath root (key ++ ".json")) "json.tmp" =
    joinPath root (key ++ ".json.tmp") at htemporary
  simp only [writeOperations, path?, if_pos h, bind, Except.bind, pure, Except.pure]
  rw [htemporary]

theorem writeOperations_of_not_isKey (h : isKey key = false) (root value : String) :
    writeOperations root key value = .error (.invalidKey key) := by
  unfold writeOperations path?
  rw [h]
  rfl

theorem write_of_not_isKey (h : isKey key = false) (root value : String) (t : FileTree) :
    write root key value t = (.error (.invalidKey key), t) := by
  unfold write
  rw [writeOperations_of_not_isKey h]

theorem write_of_operations {made written : FileTree} {value : String} (h : isKey key = true)
    (hmade : t.createDirectories root = .ok made)
    (hwrite : made.write (joinPath root (key ++ ".json.tmp")) value = .ok written)
    (hrename : written.rename (joinPath root (key ++ ".json.tmp")) (joinPath root (key ++ ".json"))
      = .ok u) : write root key value t = (.ok (), u) := by
  unfold write
  rw [writeOperations_of_isKey h]
  simp only [runAll, FileOperation.run, hmade, hwrite, hrename]

theorem read_of_isKey (h : isKey key = true) (root : String) (t : FileTree) :
    read root key t =
      if t.contains (joinPath root (key ++ ".json")) then
        match t.read (joinPath root (key ++ ".json")) with
        | .ok text => .ok (some text)
        | .error e => .error (.file e)
      else
        .ok none := by
  unfold read path?
  rw [if_pos h]
  rfl

theorem read_of_not_isKey (h : isKey key = false) (root : String) (t : FileTree) :
    read root key t = .error (.invalidKey key) := by
  unfold read path?
  rw [h]
  rfl

theorem read_of_node?_none (h : isKey key = true) (ht : t.HasDirectory root place)
    (hnone : t.node? (place ++ [key ++ ".json"]) = none) : read root key t = .ok none := by
  have hcontains : t.contains (joinPath root (key ++ ".json")) = false := by
    unfold FileTree.contains
    rw [ht.place_fileName (fileName_of_isKey h (by decide))]
    split
    . next found hfound =>
      split at hfound
      . cases hfound
      . cases hfound
        rw [hnone]
        rfl
    . rfl
  rw [read_of_isKey h, hcontains]
  rfl

theorem read_congr (ht : t.HasDirectory root place) (hu : u.HasDirectory root place)
    (h : isKey key = true →
      u.node? (place ++ [key ++ ".json"]) = t.node? (place ++ [key ++ ".json"])) :
    read root key u = read root key t := by
  cases hkey : isKey key with
  | false => rw [read_of_not_isKey hkey, read_of_not_isKey hkey]
  | true =>
    have hname : FileName (key ++ ".json") := fileName_of_isKey hkey (by decide)
    have hplace : u.place (joinPath root (key ++ ".json")) =
        t.place (joinPath root (key ++ ".json")) := by
      rw [ht.place_fileName hname, hu.place_fileName hname]
    have hnode : ∀ found, t.place (joinPath root (key ++ ".json")) = .ok found →
        u.node? found = t.node? found := by
      intro found hfound
      rw [ht.eq_of_place hname hfound]
      exact h hkey
    rw [read_of_isKey hkey, read_of_isKey hkey, FileTree.contains_congr hplace hnode,
      FileTree.read_congr hplace hnode]

theorem fileName_ne_temporary (other key : String) : other ++ ".json" ≠ key ++ ".json.tmp" := by
  intro h
  have hlast := congrArg (·.toList.getLast?) h
  simp at hlast

theorem fileName_ne {other : String} (h : other ≠ key) : other ++ ".json" ≠ key ++ ".json" := by
  intro heq
  rw [← String.toList_inj, String.toList_append, String.toList_append] at heq
  exact h (String.toList_inj.mp (List.append_cancel_right heq))

theorem hasDirectory_write {path content : String} (ht : t.HasDirectory root place)
    (h : t.write path content = .ok u) : u.HasDirectory root place := by
  obtain ⟨_, _, hkept⟩ := FileTree.KeptBut.write h
  exact ht.kept hkept

theorem hasDirectory_rename {source target : String} (ht : t.HasDirectory root place)
    (h : t.rename source target = .ok u) : u.HasDirectory root place := by
  obtain ⟨_, _, _, _, hkept⟩ := FileTree.KeptBut.rename h
  exact ht.kept hkept

theorem read_write_temporary {left : String} (hkey : isKey key = true)
    (ht : t.HasDirectory root place)
    (h : t.write (joinPath root (key ++ ".json.tmp")) left = .ok u) (other : String) :
    read root other u = read root other t := by
  have hu := hasDirectory_write ht h
  obtain ⟨found, hfound, _, rfl⟩ := FileTree.write_ok h
  obtain rfl := ht.eq_of_place (fileName_of_isKey hkey (by decide)) hfound
  apply read_congr ht hu
  intro _
  apply FileTree.node?_put_of_ne
  simpa using fileName_ne_temporary other key

theorem read_rename {text : String} (hkey : isKey key = true) (ht : t.HasDirectory root place)
    (htext : t.read (joinPath root (key ++ ".json.tmp")) = .ok text)
    (h : t.rename (joinPath root (key ++ ".json.tmp")) (joinPath root (key ++ ".json")) = .ok u)
    (other : String) :
    read root other u = if other = key then .ok (some text) else read root other t := by
  have hu := hasDirectory_rename ht h
  have hname : FileName (key ++ ".json") := fileName_of_isKey hkey (by decide)
  obtain ⟨content, source, target, hcontent, hsource, htarget, _, rfl⟩ := FileTree.rename_ok h
  obtain rfl := Except.ok.inj (hcontent.symm.trans htext)
  obtain rfl := ht.eq_of_place (fileName_of_isKey hkey (by decide)) hsource
  obtain rfl := ht.eq_of_place hname htarget
  split
  . next heq =>
    obtain rfl := heq
    have hplace : ((t.erase (place ++ [other ++ ".json.tmp"])).put (place ++ [other ++ ".json"])
        (.file content)).place (joinPath root (other ++ ".json")) =
          .ok (place ++ [other ++ ".json"]) := by
      rw [hu.place_fileName hname, ← ht.place_fileName hname, htarget]
    refine read_eq_some_iff.mpr ⟨joinPath root (other ++ ".json"), ?_, ?_⟩
    . unfold path?
      rw [if_pos hkey]
    . exact FileTree.read_ok_iff.mpr ⟨_, hplace, FileTree.node?_put (by simp) _⟩
  . next hne =>
    apply read_congr ht hu
    intro _
    rw [FileTree.node?_put_of_ne, FileTree.node?_erase_of_ne]
    . simpa using fileName_ne_temporary other key
    . simpa using fileName_ne hne

end Folder
end WeekMenu

import WeekMenu.Proofs.Storage.Entry

/-!
This module contains what a `set` on a folder leaves that fails or is stopped at one of its
operations: the files that any `set` leads to before its text is moved into place.
-/

namespace WeekMenu

/--
How far a `set` comes that fails or is stopped: the operations before the one at which it ends, the
steps of the directory that are created if it ends there, and what is left in the file that is being
written, if anything.
-/
structure Stop where
  done : Fin 3
  made : Nat
  left : Option String
  deriving DecidableEq, Repr

/--
What an operation leaves that fails or is stopped on its way: some of the directories, or any
content in the file. A file is moved at once or not at all.
-/
def FileOperation.cutShort (stop : Stop) : FileOperation → FileTree → FileTree
  | .createDirectories path, t =>
    (t.createBelow [] ((FileTree.steps path).take stop.made)).toOption.getD t
  | .write path _, t =>
    match stop.left with
    | none => t
    | some content => (t.write path content).toOption.getD t
  | .rename _ _, t => t

namespace Folder

def stopped (root key value : String) (stop : Stop) (files : FileTree) : FileTree :=
  match writeOperations root key value with
  | .error _ => files
  | .ok ops =>
    match runAll (ops.take stop.done) files, ops[stop.done.val]? with
    | (.ok (), files), some op => op.cutShort stop files
    | (_, files), _ => files

inductive Underway (root key : String) (t : FileTree) : FileTree → Prop where
  | creating {n : Nat} {u : FileTree}
      (h : t.createBelow [] ((FileTree.steps root).take n) = .ok u) : Underway root key t u
  | writing {made u : FileTree} {left : String} (hmade : t.createDirectories root = .ok made)
      (h : made.write (joinPath root (key ++ ".json.tmp")) left = .ok u) : Underway root key t u

namespace Underway

variable {root key : String} {t u : FileTree}

theorem refl (root key : String) (t : FileTree) : Underway root key t t :=
  creating (n := 0) rfl

theorem created (h : t.createDirectories root = .ok u) : Underway root key t u := by
  apply creating (n := (FileTree.steps root).length)
  rw [List.take_length]
  exact h

end Underway

variable {root key : String} {t u : FileTree}

theorem underway_cutShort_write {made : FileTree} (hmade : t.createDirectories root = .ok made)
    (value : String) (stop : Stop) :
    Underway root key t
      ((FileOperation.write (joinPath root (key ++ ".json.tmp")) value).cutShort stop made) := by
  unfold FileOperation.cutShort
  dsimp only
  split
  . exact .created hmade
  . next content _ =>
    cases hwrite : made.write (joinPath root (key ++ ".json.tmp")) content with
    | error e => exact .created hmade
    | ok written => exact .writing hmade hwrite

theorem underway_stopped (hkey : isKey key = true) (value : String) (stop : Stop) :
    Underway root key t (stopped root key value stop t) := by
  unfold stopped
  rw [writeOperations_of_isKey hkey]
  obtain ⟨done, _, left⟩ := stop
  match done with
  | 0 =>
    change Underway root key t ((t.createBelow [] _).toOption.getD t)
    cases hmade : t.createBelow [] _ with
    | error e => exact .refl root key t
    | ok made => exact .creating hmade
  | 1 =>
    simp only [Fin.val_one, List.take, runAll, FileOperation.run]
    cases hmade : t.createDirectories root with
    | error e => exact .refl root key t
    | ok made => exact underway_cutShort_write hmade value _
  | 2 =>
    simp only [Fin.val_two, List.take, runAll, FileOperation.run]
    cases hmade : t.createDirectories root with
    | error e => exact .refl root key t
    | ok made =>
      dsimp only
      cases hwrite : made.write (joinPath root (key ++ ".json.tmp")) value with
      | error e => exact .created hmade
      | ok written => exact .writing hmade hwrite

theorem write_cases (hkey : isKey key = true) (root value : String) (t : FileTree) :
    (∃ made written u, t.createDirectories root = .ok made ∧
      made.write (joinPath root (key ++ ".json.tmp")) value = .ok written ∧
      written.rename (joinPath root (key ++ ".json.tmp")) (joinPath root (key ++ ".json")) =
        .ok u ∧
      write root key value t = (.ok (), u)) ∨
    ∃ e u, Underway root key t u ∧ write root key value t = (.error (.file e), u) := by
  unfold write
  rw [writeOperations_of_isKey hkey]
  simp only [runAll, FileOperation.run]
  cases hmade : t.createDirectories root with
  | error e => exact Or.inr ⟨e, t, .refl root key t, rfl⟩
  | ok made =>
    dsimp only
    cases hwrite : made.write (joinPath root (key ++ ".json.tmp")) value with
    | error e => exact Or.inr ⟨e, made, .created hmade, rfl⟩
    | ok written =>
      dsimp only
      cases hrename :
        written.rename (joinPath root (key ++ ".json.tmp")) (joinPath root (key ++ ".json")) with
      | error e => exact Or.inr ⟨e, written, .writing hmade hwrite, rfl⟩
      | ok u => exact Or.inl ⟨made, written, u, rfl, hwrite, hrename, rfl⟩

end Folder
end WeekMenu

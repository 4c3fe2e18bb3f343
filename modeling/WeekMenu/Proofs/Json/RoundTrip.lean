import WeekMenu.Json.Reader
import WeekMenu.Json.Writer

/-!
This module contains the round trip of JSON text: reading gives back the rows of strings that were
written, whatever characters the strings hold.
-/

namespace WeekMenu
namespace Json

theorem hexUnit?_control : ∀ n < 0x20,
    hexUnit? '0' '0' (if n < 0x10 then '0' else '1') (Nat.digitChar (n % 16)) = some n := by
  decide

theorem stringRest_control (c : Char) (hc : c.toNat < 0x20) (rest : List Char) :
    stringRest ('\\' :: 'u' :: '0' :: '0' :: (if c.toNat < 0x10 then '0' else '1') ::
        Nat.digitChar (c.toNat % 16) :: rest)
      =
    (stringRest rest).map fun (text, rest) => (c :: text, rest) := by
  rw [stringRest, hexUnit?_control c.toNat hc]
  dsimp only
  rw [if_neg (by omega), if_neg (by omega), Char.ofNat_toNat]

theorem stringRest_plain (c : Char) (hquote : c ≠ '"') (hslash : c ≠ '\\') (hc : ¬c.toNat < 0x20)
    (rest : List Char) :
    stringRest (c :: rest) = (stringRest rest).map fun (text, rest) => (c :: text, rest) := by
  rw [stringRest]
  . rw [if_neg (by simp [hslash, hc])]
  . simp [hquote]
  . simp [hslash]
  . simp [hslash]

theorem stringRest_escapeChar (c : Char) (rest : List Char) :
    stringRest (escapeChar c ++ rest)
      =
    (stringRest rest).map fun (text, rest) => (c :: text, rest) := by
  unfold escapeChar
  split
  -- What is left is a character without an escape of its own.
  any_goals simp [stringRest, escaped?]
  next hquote hslash _ _ _ _ _ =>
    split
    . next hc =>
      apply stringRest_control
      exact hc
    . next hc =>
      apply stringRest_plain <;> assumption

theorem stringRest_flatMap (cs rest : List Char) :
    stringRest (cs.flatMap escapeChar ++ '"' :: rest) = some (cs, rest) := by
  induction cs with
  | nil => simp [stringRest]
  | cons c cs ih =>
    rw [List.flatMap_cons, List.append_assoc, stringRest_escapeChar, ih]
    rfl

theorem flatten_intersperse (between : List Char) (f : α → List Char) (a : α) (as : List α) :
    (((a :: as).map f).intersperse between).flatten
      =
    f a ++ as.flatMap fun a => between ++ f a := by
  induction as generalizing a with
  | nil => simp
  | cons b as ih =>
    simp only [List.map_cons] at ih
    simp [ih]

theorem length_le_length_flatMap {f : α → List Char} (h : ∀ a, f a ≠ []) (as : List α) :
    as.length ≤ (as.flatMap f).length := by
  induction as with
  | nil => simp
  | cons a as ih =>
    have := List.length_pos_iff.mpr (h a)
    simp only [List.flatMap_cons, List.length_append, List.length_cons]
    omega

/--
The reader takes whatever `write` has written off the front of a text, and yields its value. A
written value starts with a quote or a bracket.
-/
structure Reads (reader : Reader β) (write : α → List Char) (value : α → β) : Prop where
  start : ∀ a, ∃ c rest, write a = c :: rest ∧ (c = '"' ∨ c = '[')
  read : ∀ a rest, reader (write a ++ rest) = some (value a, rest)

namespace Reads

variable {reader : Reader β} {write : α → List Char} {value : α → β}

theorem skipBlanks_append (h : Reads reader write value) (a : α) (rest : List Char) :
    skipBlanks (write a ++ rest) = write a ++ rest := by
  obtain ⟨c, cs, ha, hc⟩ := h.start a
  rw [ha]
  cases hc with
  | inl hc => simp [skipBlanks, hc]
  | inr hc => simp [skipBlanks, hc]

theorem word_null_append (h : Reads reader write value) (a : α) (rest : List Char) :
    word "null" (write a ++ rest) = none := by
  obtain ⟨c, cs, ha, hc⟩ := h.start a
  rw [ha]
  cases hc with
  | inl hc => simp [word, hc]
  | inr hc => simp [word, hc]

theorem string : Reads Json.string ofString id where
  start s := by
    exact ⟨'"', _, rfl, by simp⟩
  read s rest := by
    have hs : ofString s ++ rest = '"' :: (s.toList.flatMap escapeChar ++ '"' :: rest) := by
      simp [ofString]
    rw [hs]
    unfold Json.string
    simp [expect, skipBlanks, stringRest_flatMap]

theorem nullable (h : Reads reader write value) :
    Reads (Json.nullable reader) write (fun a => some (value a)) where
  start := h.start
  read a rest := by
    unfold Json.nullable
    dsimp only
    rw [h.skipBlanks_append, h.word_null_append, h.read]
    rfl

theorem elements (h : Reads reader write value) (as : List α) (fuel : Nat)
    (hfuel : as.length < fuel) (rest : List Char) :
    Json.elements reader fuel (as.flatMap (fun a => ',' :: write a) ++ ']' :: rest)
      =
    some (as.map value, rest) := by
  induction as generalizing fuel with
  | nil =>
    cases fuel with
    | zero => omega
    | succ fuel => simp [Json.elements, skipBlanks]
  | cons a as ih =>
    cases fuel with
    | zero => omega
    | succ fuel =>
      have hfuel : as.length < fuel := by
        rw [List.length_cons] at hfuel
        omega
      simp [Json.elements, skipBlanks, h.read, ih fuel hfuel]

theorem array (h : Reads reader write value) :
    Reads (Json.array reader) (fun as : List α => ofElements (as.map write))
      (fun as => as.map value) where
  start as := by
    exact ⟨'[', _, rfl, by simp⟩
  read as rest := by
    cases as with
    | nil => simp [Json.array, ofElements, expect, skipBlanks]
    | cons a as =>
      have htext : ofElements ((a :: as).map write) ++ rest
          = '[' :: (write a ++ (as.flatMap (fun a => ',' :: write a) ++ ']' :: rest)) := by
        rw [ofElements, flatten_intersperse]
        simp
      have hopen (cs : List Char) : expect '[' ('[' :: cs) = some cs := by
        simp [expect, skipBlanks]
      have hfuel :
          as.length < (as.flatMap (fun a => ',' :: write a) ++ ']' :: rest).length + 1 := by
        have := length_le_length_flatMap (fun a => List.cons_ne_nil ',' (write a)) as
        rw [List.length_append]
        omega
      rw [htext]
      simp only [Json.array, hopen, Option.bind_eq_bind, Option.bind_some, h.skipBlanks_append]
      split
      . next heq =>
        obtain ⟨c, cs, ha, hc⟩ := h.start a
        rw [ha] at heq
        cases hc <;> simp_all
      . rw [h.read, Option.bind_some]
        dsimp only
        rw [h.elements as _ hfuel]
        rfl

end Reads

theorem read_ofRows (rows : List (List String)) :
    read (array (array (nullable string))) (ofRows rows) = some (rows.map (·.map some)) := by
  have h := (Reads.string.nullable.array.array).read rows []
  unfold read ofRows
  rw [List.append_nil] at h
  rw [String.toList_ofList, h]
  rfl

end Json
end WeekMenu

import WeekMenu.History
import WeekMenu.Proofs.Json.RoundTrip

/-!
This module contains the round trip of the file of the history: reading gives back the commands that
were written, whatever characters they hold.
-/

namespace WeekMenu
namespace Toml

open History (escapeChar ofString)

theorem mapM_hexValue?_control : ∀ n < 0x80,
    ['0', '0', Nat.digitChar (n / 16), Nat.digitChar (n % 16)].mapM Json.hexValue?
      =
    some [0, 0, n / 16, n % 16] := by
  decide

theorem hexChar_control {n : Nat} (hn : n < 0x80) (rest : List Char) :
    hexChar 4 ('0' :: '0' :: Nat.digitChar (n / 16) :: Nat.digitChar (n % 16) :: rest)
      =
    some (Char.ofNat n, rest) := by
  have hvalue : [0, 0, n / 16, n % 16].foldl (fun k v => 16 * k + v) 0 = n := by
    simp only [List.foldl_cons, List.foldl_nil]
    omega
  have hvalid : n.isValidChar := Or.inl (by omega)
  unfold hexChar
  simp only [List.take_succ_cons, List.take_zero, mapM_hexValue?_control n hn,
    Option.bind_eq_bind, Option.bind_some, hvalue]
  rw [if_pos ⟨rfl, hvalid⟩]
  rfl

theorem basicRest_escapeChar (c : Char) (fuel : Nat) (rest : List Char) :
    basicRest (fuel + 1) (escapeChar c ++ rest)
      =
    (basicRest fuel rest).map fun (text, rest) => (c :: text, rest) := by
  unfold escapeChar
  split
  . rfl
  . rfl
  . next hquote hslash =>
    split
    . next hc =>
      have hlow : c.toNat < 0x80 := by
        simp only [Bool.or_eq_true, decide_eq_true_eq, beq_iff_eq] at hc
        omega
      simp only [List.cons_append, List.nil_append, basicRest, escape, hexChar_control hlow,
        Char.ofNat_toNat]
    . next hc =>
      have hplain : isPlain c = true := by
        simp only [Bool.or_eq_true, decide_eq_true_eq, beq_iff_eq, not_or, Nat.not_lt] at hc
        simp [isPlain, hc.1, hc.2]
      rw [List.singleton_append, basicRest, if_pos hplain]
      . simpa using hslash
      . simpa using hquote

theorem basicRest_flatMap (cs rest : List Char) {fuel : Nat} (hfuel : cs.length < fuel) :
    basicRest fuel (cs.flatMap escapeChar ++ '"' :: rest) = some (cs, rest) := by
  induction cs generalizing fuel with
  | nil =>
    cases fuel with
    | zero => cases hfuel
    | succ fuel => rfl
  | cons c cs ih =>
    cases fuel with
    | zero => cases hfuel
    | succ fuel =>
      rw [List.flatMap_cons, List.append_assoc, basicRest_escapeChar,
        ih (Nat.lt_of_succ_lt_succ hfuel)]
      rfl

theorem string_quote {cs : List Char} (h : ∀ rest, cs ≠ '"' :: '"' :: rest) :
    string ('"' :: cs)
      =
    (basicRest (cs.length + 2) cs).map fun (text, rest) => (String.ofList text, rest) := by
  unfold string
  split
  . next rest heq =>
    cases heq
    exact absurd rfl (h rest)
  . next heq => cases heq
  . next heq =>
    cases heq
    rfl
  . next heq => cases heq
  . next hquote _ => exact absurd rfl (hquote cs)

theorem escapeChar_ne_nil (c : Char) : escapeChar c ≠ [] := by
  unfold escapeChar
  split
  . apply List.cons_ne_nil
  . apply List.cons_ne_nil
  . split <;> apply List.cons_ne_nil

theorem head?_escapeChar_append (c : Char) (rest : List Char) :
    (escapeChar c ++ rest).head? ≠ some '"' := by
  unfold escapeChar
  split
  . simp
  . simp
  . split <;> simp_all

theorem ofString_append (s : String) (rest : List Char) :
    ofString s ++ rest = '"' :: (s.toList.flatMap escapeChar ++ '"' :: rest) := by
  simp [ofString]

section Append

variable (s : String) {rest : List Char}

theorem string_append (hrest : rest.head? ≠ some '"') :
    string (ofString s ++ rest) = some (s, rest) := by
  have hfuel :
      s.toList.length < (s.toList.flatMap escapeChar ++ '"' :: rest).length + 2 := by
    have := Json.length_le_length_flatMap escapeChar_ne_nil s.toList
    rw [List.length_append]
    omega
  rw [ofString_append, string_quote, basicRest_flatMap s.toList rest hfuel]
  . simp
  . intro rest' heq
    cases hs : s.toList with
    | nil =>
      rw [hs] at heq
      obtain ⟨_, rfl⟩ := List.cons.inj heq
      exact hrest rfl
    | cons c cs =>
      rw [hs, List.flatMap_cons, List.append_assoc] at heq
      apply head?_escapeChar_append c
      rw [heq]
      rfl

theorem value_append (depth : Nat) (hrest : rest.head? ≠ some '"') :
    value depth (ofString s ++ rest) = some (.text s, rest) := by
  have hread := string_append s hrest
  rw [ofString_append] at hread ⊢
  unfold value
  simp only [hread]
  rfl

theorem skipLines_append {start : List Char} (hstart : start = [] ∨ start = [' ']) :
    skipLines (start ++ (ofString s ++ rest)).length (start ++ (ofString s ++ rest))
      =
    ofString s ++ rest := by
  rw [ofString_append]
  rcases hstart with rfl | rfl <;> rfl

end Append

theorem skipLines_comma (fuel : Nat) (rest : List Char) :
    skipLines fuel (',' :: rest) = ',' :: rest := by
  cases fuel <;> rfl

theorem arrayRest_append (depth : Nat) {fuel : Nat} (s : String) {as : List String}
    (hfuel : as.length < fuel) {start : List Char} (hstart : start = [] ∨ start = [' '])
    (rest : List Char) :
    arrayRest (value depth) fuel
        (start ++ (ofString s ++ (as.flatMap (fun a => [',', ' '] ++ ofString a) ++ ']' :: rest)))
      =
    some ((s :: as).map .text, rest) := by
  induction as generalizing fuel s start with
  | nil =>
    cases fuel with
    | zero => cases hfuel
    | succ fuel =>
      rw [List.flatMap_nil, List.nil_append, arrayRest, skipLines_append s hstart]
      split
      . next heq => cases heq
      . rw [value_append s depth (by simp)]
        rfl
  | cons a as ih =>
    cases fuel with
    | zero => cases hfuel
    | succ fuel =>
      have hnext : (a :: as).flatMap (fun a => [',', ' '] ++ ofString a) ++ ']' :: rest
          = ',' :: ([' '] ++ (ofString a ++
              (as.flatMap (fun a => [',', ' '] ++ ofString a) ++ ']' :: rest))) := by
        simp
      have hrest := ih a (Nat.lt_of_succ_lt_succ hfuel) (Or.inr rfl)
      rw [hnext, arrayRest, skipLines_append s hstart]
      split
      . next heq => cases heq
      . rw [value_append s depth (by simp)]
        dsimp only
        rw [skipLines_comma]
        simp only [hrest]
        rfl

theorem value_bracket (depth : Nat) (rest : List Char) :
    value (depth + 1) ('[' :: rest)
      =
    (arrayRest (value depth) (rest.length + 1) rest).map fun (vs, rest) => (.array vs, rest) :=
  rfl

theorem value_array (depth : Nat) (as : List String) (rest : List Char) :
    value (depth + 1) ('[' :: (((as.map ofString).intersperse [',', ' ']).flatten ++ ']' :: rest))
      =
    some (.array (as.map .text), rest) := by
  rw [value_bracket]
  cases as with
  | nil => rfl
  | cons a as =>
    have hfuel : as.length
        < (ofString a ++ (as.flatMap (fun a => [',', ' '] ++ ofString a) ++ ']' :: rest)).length
          + 1 := by
      have := Json.length_le_length_flatMap
        (fun a => List.cons_ne_nil ',' (' ' :: ofString a)) as
      simp only [List.length_append, List.cons_append, List.nil_append] at this ⊢
      omega
    have hread := arrayRest_append depth a hfuel (Or.inl rfl) rest
    rw [List.nil_append] at hread
    rw [Json.flatten_intersperse, List.append_assoc, hread]
    rfl

end Toml

namespace History

theorem toList_toText (recents : List String) :
    (toText recents).toList
      =
    "commands = ".toList ++
      '[' :: (((recents.map ofString).intersperse [',', ' ']).flatten ++ ']' :: ['\n']) := by
  simp [toText]

theorem assignment_commands {cs rest : List Char} {v : Toml.Value}
    (h : Toml.value Toml.depthLimit ('[' :: cs) = some (v, rest)) :
    Toml.assignment ⟨[], []⟩ ("commands = ".toList ++ '[' :: cs)
      =
    some (⟨[("commands", v)], []⟩, rest) := by
  have hkey : Toml.key ("commands = ".toList ++ '[' :: cs)
      = some (([], "commands"), '=' :: ' ' :: '[' :: cs) := rfl
  have hword : Toml.word "=" ('=' :: ' ' :: '[' :: cs) = some (' ' :: '[' :: cs) := rfl
  have hspace : Toml.skipSpaces (' ' :: '[' :: cs) = '[' :: cs := rfl
  unfold Toml.assignment Toml.keyValue
  simp only [hkey, hword, hspace, h, Option.bind_eq_bind, Option.bind_some]
  rfl

theorem document?_toText (recents : List String) :
    Toml.document? (toText recents)
      =
    some [("commands", .array (recents.map .text))] := by
  have hline := assignment_commands (Toml.value_array 79 recents ['\n'])
  rw [← toList_toText] at hline
  have hmark : (toText recents).toList.head? = some 'c' := by
    rw [toList_toText]
    rfl
  have hstart (n : Nat) : Toml.skipLines n (toText recents).toList = (toText recents).toList := by
    rw [toList_toText]
    cases n <;> rfl
  unfold Toml.document?
  dsimp only
  split
  . next heq =>
    rw [heq] at hmark
    cases hmark
  rw [Toml.lines, hstart]
  split
  . next heq =>
    rw [heq] at hmark
    cases hmark
  . next heq =>
    rw [heq] at hmark
    cases hmark
  . obtain ⟨n, hn⟩ : ∃ n, (toText recents).toList.length = n + 1 := by
      rw [toList_toText]
      exact ⟨_, rfl⟩
    rw [hline, hn]
    rfl

theorem mapM_text? (recents : List String) :
    (recents.map Toml.Value.text).mapM Toml.Value.text? = some recents := by
  induction recents with
  | nil => rfl
  | cons s recents ih =>
    rw [List.map_cons, List.mapM_cons, ih]
    rfl

theorem ofText_toText (recents : List String) : ofText (toText recents) = recents := by
  have hfound : (Toml.Value.array (recents.map .text)).texts? = some recents := mapM_text? recents
  unfold ofText
  rw [document?_toText]
  simp [hfound]

end History
end WeekMenu

import Mathlib
import WeekMenu.Text.Blank
import WeekMenu.Text.Case

/-!
This module contains facts about the lower case of a text: when it consists of ASCII letters, and
what it is for a text in ASCII.
-/

namespace WeekMenu
namespace Text

theorem lowerChars_ne_nil {cs : List Char} (h : cs ≠ []) : lowerChars cs ≠ [] := by
  cases cs with
  | nil => contradiction
  | cons c cs =>
    unfold lowerChars lowerChars.go
    dsimp only
    split
    . simp
    . split <;> simp

theorem lower_ne_empty {s : String} (h : s ≠ "") : lower s ≠ "" := by
  intro hl
  have hs : s.toList ≠ [] := by
    simpa using h
  apply lowerChars_ne_nil hs
  simpa [lower] using hl

theorem isAlpha_iff {c : Char} :
    c.isAlpha = true ↔
      (0x41 ≤ c.toNat ∧ c.toNat ≤ 0x5A) ∨ (0x61 ≤ c.toNat ∧ c.toNat ≤ 0x7A) := by
  unfold Char.isAlpha Char.isUpper Char.isLower
  simp [UInt32.le_iff_toNat_le]

theorem isBlank_of_isAlpha {c : Char} (h : c.isAlpha = true) : isBlank c = false := by
  rw [isAlpha_iff] at h
  simp only [isBlank, Bool.or_eq_false_iff, Bool.and_eq_false_iff, decide_eq_false_iff_not,
    beq_eq_false_iff_ne]
  omega

theorem toNat_toLower (c : Char) :
    c.toLower.toNat = if 0x41 ≤ c.toNat ∧ c.toNat ≤ 0x5A then c.toNat + 32 else c.toNat := by
  unfold Char.toLower
  split
  . next h =>
    have hbounds : 0x41 ≤ c.toNat ∧ c.toNat ≤ 0x5A := by
      simpa [UInt32.le_iff_toNat_le] using h
    rw [if_pos hbounds]
    change (c.val + ('a'.val - 'A'.val)).toNat = _
    rw [UInt32.toNat_add]
    change (c.toNat + 32) % 2 ^ 32 = _
    omega
  . next h =>
    have hbounds : ¬(0x41 ≤ c.toNat ∧ c.toNat ≤ 0x5A) := by
      simpa [UInt32.le_iff_toNat_le] using h
    rw [if_neg hbounds]

theorem toLower_eq_iff {c upper lower : Char} (hupper : 0x41 ≤ upper.toNat ∧ upper.toNat ≤ 0x5A)
    (hlower : lower.toNat = upper.toNat + 32) : c.toLower = lower ↔ c = upper ∨ c = lower := by
  simp only [← Char.toNat_inj, toNat_toLower]
  split
  . omega
  . omega

theorem lowerAscii_eq_singleton_iff {upper lower : Char}
    (hupper : 0x41 ≤ upper.toNat ∧ upper.toNat ≤ 0x5A) (hlower : lower.toNat = upper.toNat + 32)
    (cs : List Char) : lowerAscii cs = [lower] ↔ ∃ c ∈ [upper, lower], cs = [c] := by
  unfold lowerAscii
  rw [List.map_eq_singleton_iff]
  constructor
  . rintro ⟨c, hcs, hc⟩
    rw [toLower_eq_iff hupper hlower] at hc
    exact ⟨c, by simpa using hc, hcs⟩
  . rintro ⟨c, hc, hcs⟩
    refine ⟨c, hcs, ?_⟩
    rw [toLower_eq_iff hupper hlower]
    simpa using hc

theorem toNat_lt_of_isAlpha {c : Char} (h : c.isAlpha = true) : c.toNat < 0x80 := by
  rw [isAlpha_iff] at h
  omega

theorem isAlpha_lowerAscii_iff {cs : List Char} :
    (∀ c ∈ lowerAscii cs, c.isAlpha = true) ↔ ∀ c ∈ cs, c.isAlpha = true := by
  unfold lowerAscii
  rw [List.forall_mem_map]
  simp only [Char.isAlpha_toLower_eq_isAlpha]

theorem isAlpha_of_lowerAscii {cs word : List Char} (h : lowerAscii cs = word)
    (hword : ∀ c ∈ word, c.isAlpha = true) : ∀ c ∈ cs, c.isAlpha = true := by
  rw [← isAlpha_lowerAscii_iff, h]
  exact hword

theorem not_isAlpha_ofNat {n : Nat} (h : 0x80 ≤ n) : ¬(Char.ofNat n).isAlpha = true := by
  intro halpha
  by_cases hn : n.isValidChar
  . have hlt := toNat_lt_of_isAlpha halpha
    rw [Char.ofNat, dif_pos hn] at hlt
    change n < 0x80 at hlt
    omega
  . rw [Char.ofNat, dif_neg hn] at halpha
    exact absurd halpha (by decide)

theorem lowerRuns_image : ∀ run ∈ lowerRuns,
    run.2.1 < 0x80 ∨ 0x80 ≤ run.2.2.2 ∨ run = (0x212A, 0x212A, 1, 0x6B) := by
  decide +kernel

theorem lowerChar_eq_toLower {c : Char} (h : (lowerChar c).isAlpha = true)
    (hk : lowerChar c ≠ 'k') : lowerChar c = c.toLower := by
  unfold lowerChar at h hk ⊢
  dsimp only at h hk ⊢
  split
  . rfl
  . next hc =>
    exfalso
    rw [if_neg hc] at h hk
    split at h
    . next first last step image hrun =>
      rw [hrun] at hk
      have hmem := List.mem_of_find?_eq_some hrun
      have hrange := List.find?_some hrun
      simp only [Bool.and_eq_true, decide_eq_true_eq] at hrange
      rcases lowerRuns_image _ hmem with hlast | himage | hkelvin
      . dsimp only at hlast
        omega
      . exact not_isAlpha_ofNat (Nat.le_add_right_of_le himage) h
      . cases hkelvin
        apply hk
        rw [show c.toNat = 0x212A by omega]
    . exact hc (toNat_lt_of_isAlpha h)

theorem lowerChar_eq_iff {c letter : Char} (h : letter.isAlpha = true) (hk : letter ≠ 'k') :
    lowerChar c = letter ↔ c.toLower = letter := by
  constructor
  . rintro rfl
    exact (lowerChar_eq_toLower h hk).symm
  . rintro rfl
    rw [Char.isAlpha_toLower_eq_isAlpha] at h
    have hc := toNat_lt_of_isAlpha h
    simp [lowerChar, hc]

theorem cons_ne_of_not_isAlpha {c letter : Char} {cs word : List Char}
    (hletter : letter.isAlpha = true) (hc : ¬c.isAlpha = true) : c :: cs ≠ letter :: word := by
  intro heq
  cases heq
  exact hc hletter

theorem lowerChars.go_eq_iff {word : List Char} (h : ∀ c ∈ word, c.isAlpha = true ∧ c ≠ 'k')
    (before cs : List Char) : lowerChars.go before cs = word ↔ lowerAscii cs = word := by
  induction cs generalizing before word with
  | nil => simp [lowerChars.go, lowerAscii]
  | cons c cs ih =>
    cases word with
    | nil =>
      unfold lowerChars.go lowerAscii
      repeat' split
      all_goals simp
    | cons letter word =>
      obtain ⟨⟨hletter, hk⟩, hword⟩ := List.forall_mem_cons.mp h
      rw [lowerChars.go]
      split
      . next hsigma =>
        subst hsigma
        apply iff_of_false
        . split
          . exact cons_ne_of_not_isAlpha hletter (by decide)
          . exact cons_ne_of_not_isAlpha hletter (by decide)
        . exact cons_ne_of_not_isAlpha hletter (by decide)
      . split
        . next hdot =>
          -- The dot above that follows the `i` is not a letter of ASCII.
          subst hdot
          apply iff_of_false
          . intro heq
            cases heq
            exact absurd (hword _ List.mem_cons_self).1 (by decide)
          . exact cons_ne_of_not_isAlpha hletter (by decide)
        . rw [List.singleton_append, List.cons.injEq, ih hword, lowerChar_eq_iff hletter hk]
          simp [lowerAscii]

theorem lowerChars_eq_iff {word : List Char} (h : ∀ c ∈ word, c.isAlpha = true ∧ c ≠ 'k')
    (cs : List Char) : lowerChars cs = word ↔ lowerAscii cs = word :=
  lowerChars.go_eq_iff h [] cs

theorem lowerChar_of_lt {c : Char} (h : c.toNat < 0x80) : lowerChar c = c.toLower := by
  simp [lowerChar, h]

theorem lowerChars.go_of_ascii {cs : List Char} (h : ∀ c ∈ cs, c.toNat < 0x80)
    (before : List Char) : lowerChars.go before cs = lowerAscii cs := by
  induction cs generalizing before with
  | nil => rfl
  | cons c cs ih =>
    obtain ⟨hc, hcs⟩ := List.forall_mem_cons.mp h
    have hsigma : c ≠ 'Σ' := by
      rintro rfl
      exact absurd hc (by decide)
    have hdot : c ≠ 'İ' := by
      rintro rfl
      exact absurd hc (by decide)
    rw [lowerChars.go, if_neg hsigma, if_neg hdot, ih hcs, lowerChar_of_lt hc]
    rfl

theorem lowerChars_of_ascii {cs : List Char} (h : ∀ c ∈ cs, c.toNat < 0x80) :
    lowerChars cs = lowerAscii cs :=
  lowerChars.go_of_ascii h []

theorem lowerAscii_lowerAscii (cs : List Char) : lowerAscii (lowerAscii cs) = lowerAscii cs := by
  unfold lowerAscii
  rw [List.map_map]
  apply List.map_congr_left
  intro c _
  exact Char.toLower_toLower_eq_toLower c

theorem toList_lower_of_ascii {s : String} (h : ∀ c ∈ s.toList, c.toNat < 0x80) :
    (lower s).toList = lowerAscii s.toList := by
  unfold lower
  rw [String.toList_ofList]
  exact lowerChars_of_ascii h

end Text
end WeekMenu

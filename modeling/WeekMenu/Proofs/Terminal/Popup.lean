import WeekMenu.Proofs.Terminal.Rect

/-!
This module contains the proof that popups stay on the screen: a rectangle in the middle of another
one lies inside it although both of its edges are rounded, and the numbers that give its place have
no more than sixteen binary digits.
-/

namespace WeekMenu

def add16? (a b : Nat) : Option Nat :=
  if a + b < 65536 then some (a + b) else none

def sub16? (a b : Nat) : Option Nat :=
  if b ≤ a then some (a - b) else none

theorem add16?_eq_some {a b : Nat} (h : a + b < 65536) : add16? a b = some (a + b) :=
  if_pos h

theorem sub16?_eq_some {a b : Nat} (h : b ≤ a) : sub16? a b = some (a - b) :=
  if_pos h

theorem roundDiv_bounds (n : Nat) :
    100 * roundDiv n 100 ≤ n + 50 ∧ n < 100 * roundDiv n 100 + 50 := by
  unfold roundDiv
  omega

namespace Rect

theorem hundredths_mono (start size : Nat) : Monotone (hundredths start size) := by
  intro p q hpq
  apply roundDiv_mono
  have := Nat.mul_le_mul_left size hpq
  omega

theorem hundredths_zero (start size : Nat) : hundredths start size 0 = start := by
  unfold hundredths
  rw [Nat.mul_zero, Nat.add_zero, Nat.mul_comm, roundDiv_mul (by decide)]

theorem hundredths_hundred (start size : Nat) : hundredths start size 100 = start + size := by
  unfold hundredths
  rw [Nat.mul_comm 100, ← Nat.add_mul, roundDiv_mul (by decide)]

theorem margin_add_le (percent : Nat) : (100 - percent) / 2 + min percent 100 ≤ 100 := by
  omega

theorem middle_le (start size percent : Nat) :
    start ≤ (middle start size percent).1 ∧
    (middle start size percent).1 + (middle start size percent).2 ≤ start + size := by
  unfold middle
  dsimp only
  constructor
  . calc start
      _ = hundredths start size 0 := (hundredths_zero start size).symm
      _ ≤ hundredths start size ((100 - percent) / 2) :=
        hundredths_mono start size (Nat.zero_le _)
  . have hfirst := hundredths_mono start size
      (Nat.le_add_right ((100 - percent) / 2) (min percent 100))
    rw [Nat.add_sub_cancel' hfirst, ← hundredths_hundred start size]
    exact hundredths_mono start size (margin_add_le percent)

theorem middle_size (start size percent : Nat) :
    100 * (middle start size percent).2 < size * min percent 100 + 100 ∧
    size * min percent 100 < 100 * (middle start size percent).2 + 100 := by
  unfold middle hundredths
  dsimp only
  rw [Nat.mul_add size]
  have hfirst := roundDiv_bounds (100 * start + size * ((100 - percent) / 2))
  have hlast := roundDiv_bounds
    (100 * start + (size * ((100 - percent) / 2) + size * min percent 100))
  omega

structure Within (r part : Rect) : Prop where
  left : r.x ≤ part.x
  right : part.right ≤ r.right
  top : r.y ≤ part.y
  bottom : part.bottom ≤ r.bottom

theorem Within.trans {r part inner : Rect} (h : r.Within part) (h' : part.Within inner) :
    r.Within inner where
  left := h.left.trans h'.left
  right := h'.right.trans h.right
  top := h.top.trans h'.top
  bottom := h'.bottom.trans h.bottom

theorem within_centeredAcross (r : Rect) (percent : Nat) : r.Within (r.centeredAcross percent) where
  left := (middle_le r.x r.width percent).1
  right := (middle_le r.x r.width percent).2
  top := Nat.le_refl _
  bottom := Nat.le_refl _

theorem within_centered (r : Rect) (percentX percentY : Nat) :
    r.Within (r.centered percentX percentY) := by
  have hrows : r.Within { r with
      y := (middle r.y r.height percentY).1, height := (middle r.y r.height percentY).2 } :=
    ⟨Nat.le_refl _, Nat.le_refl _, (middle_le r.y r.height percentY).1,
      (middle_le r.y r.height percentY).2⟩
  exact hrows.trans (within_centeredAcross _ percentX)

section Bottom

variable {r : Rect} {margin : Nat}

theorem bottom_atBottom (h : margin ≤ r.height) (percentX height : Nat) :
    (r.atBottom percentX height margin).bottom = r.bottom - margin := by
  unfold atBottom centeredAcross bottom
  dsimp only
  omega

theorem within_atBottom (h : margin ≤ r.height) (percentX height : Nat) :
    r.Within (r.atBottom percentX height margin) := by
  have hrows : r.Within { r with
      y := r.bottom - (min height (r.height - margin) + margin)
      height := min height (r.height - margin) } := by
    refine ⟨Nat.le_refl _, Nat.le_refl _, ?_, ?_⟩
    . unfold bottom
      dsimp only
      omega
    . unfold bottom
      dsimp only
      omega
  exact hrows.trans (within_centeredAcross _ percentX)

def atBottom? (r : Rect) (percentX height margin : Nat) : Option Rect := do
  let height := min height (← sub16? r.height margin)
  let y ← sub16? (← add16? r.y r.height) (← add16? height margin)
  return { r with y, height }.centeredAcross percentX

theorem atBottom?_eq (hbottom : r.bottom < 65536) (h : margin ≤ r.height)
    (percentX height : Nat) :
    r.atBottom? percentX height margin = some (r.atBottom percentX height margin) := by
  have hend : r.y + r.height < 65536 := hbottom
  have htaken : min height (r.height - margin) + margin ≤ r.height := by omega
  unfold atBottom?
  rw [sub16?_eq_some h, add16?_eq_some hend]
  simp only [Option.bind_eq_bind, Option.bind_some]
  rw [add16?_eq_some (by omega), Option.bind_some, sub16?_eq_some (by omega)]
  rfl

end Bottom

theorem popups_within {r : Rect} (hright : r.right < 65536) (hbottom : r.bottom < 65536)
    (percentX percentY : Nat) :
    let p := r.centered percentX percentY
    (r.Within p ∧ p.right < 65536 ∧ p.bottom < 65536) ∧
    (100 * p.width < r.width * min percentX 100 + 100 ∧
      r.width * min percentX 100 < 100 * p.width + 100) ∧
    (100 * p.height < r.height * min percentY 100 + 100 ∧
      r.height * min percentY 100 < 100 * p.height + 100) ∧
    ∀ height margin, margin ≤ r.height →
      let p := r.atBottom percentX height margin
      r.Within p ∧ p.height = min height (r.height - margin) ∧ p.bottom = r.bottom - margin ∧
      r.atBottom? percentX height margin = some p := by
  intro p
  have hwithin := r.within_centered percentX percentY
  refine ⟨⟨hwithin, hwithin.right.trans_lt hright, hwithin.bottom.trans_lt hbottom⟩,
    middle_size r.x r.width percentX, middle_size r.y r.height percentY, ?_⟩
  intro height margin h
  exact ⟨within_atBottom h percentX height, rfl, bottom_atBottom h percentX height,
    atBottom?_eq hbottom h percentX height⟩

theorem popups_within_corner :
    let r : Rect := ⟨65500, 65525, 35, 10⟩
    r.centered 33 1000 = ⟨65512, 65525, 11, 10⟩ ∧ r.Within (r.centered 33 1000) ∧
    r.atBottom 33 100 1 = ⟨65512, 65525, 11, 9⟩ ∧ r.Within (r.atBottom 33 100 1) ∧
    r.atBottom? 33 100 1 = some ⟨65512, 65525, 11, 9⟩ := by
  intro r
  have hpopups := popups_within (r := r) (by decide) (by decide) 33 1000
  obtain ⟨hwithin, _, _, hsome⟩ := hpopups.2.2.2 100 1 (by decide)
  have hplace : r.atBottom 33 100 1 = ⟨65512, 65525, 11, 9⟩ := by decide
  refine ⟨by decide, hpopups.1.1, hplace, hwithin, ?_⟩
  rw [hsome, hplace]

end Rect
end WeekMenu

/-!
This module contains rectangles of terminal cells and the ways to cut them up. Positions between
cells are kept to a hundredth of a cell before they are rounded to whole cells.
-/

namespace WeekMenu

def roundDiv (n d : Nat) : Nat :=
  -- a half is rounded up
  (2 * n + d) / (2 * d)

structure Rect where
  x : Nat
  y : Nat
  width : Nat
  height : Nat
  deriving DecidableEq, Repr, Inhabited

namespace Rect

def right (r : Rect) : Nat := r.x + r.width

def bottom (r : Rect) : Nat := r.y + r.height

def contains (r : Rect) (x y : Nat) : Bool :=
  r.x ≤ x && x < r.right && r.y ≤ y && y < r.bottom

def isEmpty (r : Rect) : Bool :=
  r.width == 0 || r.height == 0

def meet (a b : Rect) : Rect :=
  let x := max a.x b.x
  let y := max a.y b.y
  ⟨x, y, min a.right b.right - x, min a.bottom b.bottom - y⟩

def inside (r : Rect) : Rect :=
  ⟨min (r.x + 1) r.right, min (r.y + 1) r.bottom, r.width - 2, r.height - 2⟩

def indent (r : Rect) (n : Nat) : Rect :=
  { r with x := r.x + n, width := r.width - n }

def boundary (r : Rect) (n k : Nat) : Nat :=
  roundDiv (roundDiv (100 * (r.x * n + k * r.width)) n) 100

def columns (r : Rect) (n : Nat) : List Rect :=
  (List.range n).map fun k =>
    { r with x := r.boundary n k, width := r.boundary n (k + 1) - r.boundary n k }

def hundredths (start size percent : Nat) : Nat :=
  roundDiv (100 * start + size * percent) 100

def middle (start size percent : Nat) : Nat × Nat :=
  let margin := (100 - percent) / 2
  let first := hundredths start size margin
  (first, hundredths start size (margin + min percent 100) - first)

def centeredAcross (r : Rect) (percent : Nat) : Rect :=
  let (x, width) := middle r.x r.width percent
  { r with x, width }

def centered (r : Rect) (percentX percentY : Nat) : Rect :=
  let (y, height) := middle r.y r.height percentY
  { r with y, height }.centeredAcross percentX

def atBottom (r : Rect) (percentX height margin : Nat) : Rect :=
  let height := min height (r.height - margin)
  { r with y := r.bottom - (height + margin), height }.centeredAcross percentX

end Rect
end WeekMenu

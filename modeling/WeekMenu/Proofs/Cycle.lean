/-!
This module contains facts about steps around a cycle of places: the first place follows the last
one, and a step on is undone by a step back.
-/

namespace WeekMenu
namespace Cycle

variable {n i : Nat}

theorem next_lt (h : i < n) : (i + 1) % n < n :=
  Nat.mod_lt _ (Nat.zero_lt_of_lt h)

theorem prev_lt (h : i < n) : (if i = 0 then n - 1 else i - 1) < n := by
  split <;> omega

theorem prev_next (h : i < n) :
    (if (i + 1) % n = 0 then n - 1 else (i + 1) % n - 1) = i := by
  -- The next place is one more, except that the first one follows the last one.
  rcases Nat.eq_or_lt_of_le (Nat.succ_le_of_lt h) with heq | hlt
  . rw [← heq, Nat.mod_self]
    rfl
  . rw [Nat.mod_eq_of_lt hlt]
    rfl

theorem next_prev (h : i < n) : ((if i = 0 then n - 1 else i - 1) + 1) % n = i := by
  split
  . next hzero =>
    rw [Nat.sub_add_cancel (Nat.zero_lt_of_lt h), Nat.mod_self, hzero]
  . next hpos =>
    rw [Nat.sub_add_cancel (Nat.pos_of_ne_zero hpos), Nat.mod_eq_of_lt h]

end Cycle
end WeekMenu

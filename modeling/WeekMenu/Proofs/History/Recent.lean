import WeekMenu.History
import WeekMenu.Proofs.Distinct

/-!
This module contains the order in which commands are remembered: the latest one first, and each at
its latest place. To cut the list to its limit after each command comes to the same as to cut it
once at the end.
-/

namespace WeekMenu
namespace History

theorem remember_of_blank {command : String} (h : Text.trim command = "") (recents : List String) :
    remember recents command = recents := by
  unfold remember
  rw [h]
  rfl

theorem remember_of_not_blank {command : String} (h : Text.trim command ≠ "")
    (recents : List String) :
    remember recents command
      =
    (Text.trim command :: recents.erase (Text.trim command)).take limit := by
  unfold remember
  dsimp only
  rw [if_neg (by rwa [String.isEmpty_iff])]

theorem remember_take_eraseDups {command : String} (h : Text.trim command ≠ "")
    (commands : List String) :
    remember (commands.eraseDups.take limit) command
      =
    (Text.trim command :: commands).eraseDups.take limit := by
  have hnodup := Distinct.nodup_eraseDups commands
  rw [remember_of_not_blank h, List.Nodup.erase_eq_filter hnodup.take, Distinct.eraseDups_cons]
  unfold limit
  rw [List.take_succ_cons, List.take_succ_cons, Distinct.take_filter_take hnodup]

theorem foldl_remember (older commands : List String) :
    commands.foldl remember (older.eraseDups.take limit)
      =
    (((commands.map Text.trim).filter (· ≠ "")).reverse ++ older).eraseDups.take limit := by
  induction commands generalizing older with
  | nil => rfl
  | cons command commands ih =>
    rw [List.foldl_cons, List.map_cons]
    by_cases h : Text.trim command = ""
    . rw [remember_of_blank h, ih, List.filter_cons_of_neg (by simpa using h)]
    . rw [remember_take_eraseDups h, ih, List.filter_cons_of_pos (by simpa using h),
        List.reverse_cons, List.append_assoc, List.singleton_append]

end History
end WeekMenu

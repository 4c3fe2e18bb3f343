import WeekMenu.Proofs.Cycle
import WeekMenu.Proofs.Session.History
import WeekMenu.Proofs.State.Menu

/-!
This module contains the proof that the cursor stays on the grid. How many days there are to select
changes with every menu that is published; a week without days is the exception, on which the cursor
selects a first day that is not there.
-/

namespace WeekMenu

namespace Cursor

inductive Moves (n : Nat) (c : Cursor) : Cursor → Prop where
  | stay : c.Moves n c
  | left : c.Moves n (c.left n)
  | right : c.Moves n (c.right n)
  | flip : c.Moves n c.flip
  | select (day : Nat) (zone : Zone) (h : day < n) : c.Moves n ⟨day, zone⟩

def OnGrid (n : Nat) (c : Cursor) : Prop :=
  c.day < max n 1

theorem onGrid_start (n : Nat) : start.OnGrid n :=
  Nat.lt_of_lt_of_le Nat.zero_lt_one (Nat.le_max_right n 1)

theorem onGrid_of_lt {n : Nat} {c : Cursor} (h : c.day < n) : c.OnGrid n :=
  Nat.lt_of_lt_of_le h (Nat.le_max_left n 1)

theorem OnGrid.lt {n : Nat} (hn : 0 < n) {c : Cursor} (h : c.OnGrid n) : c.day < n := by
  unfold OnGrid at h
  rwa [Nat.max_eq_left hn] at h

theorem onGrid_clamp (c : Cursor) (n : Nat) : (c.clamp n).OnGrid n := by
  unfold OnGrid clamp
  dsimp only
  omega

theorem left_eq {n : Nat} (hn : 0 < n) (c : Cursor) :
    c.left n = { c with day := if c.day = 0 then n - 1 else c.day - 1 } := by
  unfold left
  rw [if_neg (Nat.ne_zero_of_lt hn)]
  split
  . rfl
  . rfl

theorem right_eq {n : Nat} (hn : 0 < n) (c : Cursor) :
    c.right n = { c with day := (c.day + 1) % n } := by
  unfold right
  rw [if_neg (Nat.ne_zero_of_lt hn)]

theorem left_right {n : Nat} {c : Cursor} (h : c.day < n) : (c.right n).left n = c := by
  have hn := Nat.zero_lt_of_lt h
  rw [right_eq hn, left_eq hn]
  dsimp only
  rw [Cycle.prev_next h]

theorem right_left {n : Nat} {c : Cursor} (h : c.day < n) : (c.left n).right n = c := by
  have hn := Nat.zero_lt_of_lt h
  rw [left_eq hn, right_eq hn]
  dsimp only
  rw [Cycle.next_prev h]

theorem OnGrid.move {n : Nat} {c d : Cursor} (h : c.OnGrid n) (hmove : c.Moves n d) :
    d.OnGrid n := by
  rcases Nat.eq_zero_or_pos n with rfl | hn
  . -- On a week without days the cursor can only change the zone.
    cases hmove with
    | select day zone hday => exact absurd hday (Nat.not_lt_zero day)
    | _ => exact h
  . have hday := h.lt hn
    cases hmove with
    | stay => exact h
    | left =>
      rw [left_eq hn]
      exact onGrid_of_lt (Cycle.prev_lt hday)
    | right =>
      rw [right_eq hn]
      exact onGrid_of_lt (Cycle.next_lt hday)
    | flip => exact h
    | select day zone hday => exact onGrid_of_lt hday

end Cursor

def Action.Publishes (p : Option Grid → Prop) (action : Action) : Prop :=
  ∀ menu, action = .menuPublished menu → p menu

namespace State

inductive IsStart : State → Prop where
  | initial : IsStart .initial
  | new (config : Config) (catalog : Catalog) (historyPath : Option String)
      (recents : List String) : IsStart (.new config catalog historyPath recents)

theorem IsStart.eq {s : State} (h : s.IsStart) : s.menu = none ∧ s.cursor = .start := by
  cases h with
  | initial => exact ⟨rfl, rfl⟩
  | new config catalog historyPath recents => exact ⟨rfl, rfl⟩

theorem dayCount_of_menu_none {s : State} (h : s.menu = none) : s.dayCount = s.days.dayCount := by
  unfold dayCount
  rw [h]

structure Steers (s t : State) : Prop where
  days : t.days = s.days
  cursor : s.cursor.Moves s.dayCount t.cursor

theorem steers_update (s : State) (now : Nat) {action : Action}
    (h : action.isPublication = false) : s.Steers (s.update now action).state := by
  cases hweek : action.concernsWeek with
  | false =>
    have hkept := s.keeps_update now hweek
    refine ⟨hkept.days, ?_⟩
    rw [hkept.cursor]
    exact .stay
  | true =>
    cases action with
    | moveLeft => exact ⟨rfl, .left⟩
    | moveRight => exact ⟨rfl, .right⟩
    | moveUp => exact ⟨rfl, .flip⟩
    | moveDown => exact ⟨rfl, .flip⟩
    | selectSlot day zone =>
      unfold update
      dsimp only
      split
      . next hday => exact ⟨rfl, .select day zone hday⟩
      . exact ⟨rfl, .stay⟩
    | commandExecuted command outcome =>
      unfold update
      dsimp only
      obtain ⟨_, _, hdone⟩ | ⟨_, _, hdone⟩ := s.commandDone_cases now command outcome
      all_goals
        rw [hdone]
        exact ⟨rfl, .stay⟩
    | menuPublished menu => cases h
    | _ => cases hweek

theorem days_update (s : State) (now : Nat) (action : Action) :
    (s.update now action).state.days = s.days := by
  cases hpub : action.isPublication with
  | false => exact (s.steers_update now hpub).days
  | true =>
    cases action with
    | menuPublished menu => cases menu <;> rfl
    | _ => cases hpub

theorem dayCount_update_of_not_publication (s : State) (now : Nat) {action : Action}
    (h : action.isPublication = false) : (s.update now action).state.dayCount = s.dayCount := by
  unfold dayCount
  rw [(s.sameMenu_update now h).menu, s.days_update]

theorem dayCount_update_menuPublished (s : State) (now : Nat) (menu : Option Grid) :
    (s.update now (.menuPublished menu)).state.dayCount =
      menu.elim s.days.dayCount Grid.dayCount := by
  cases menu <;> rfl

theorem onGrid_update {s : State} (h : s.cursor.OnGrid s.dayCount) (now : Nat) {action : Action}
    (hnone : action = .menuPublished none → s.dayCount = s.days.dayCount) :
    (s.update now action).state.cursor.OnGrid (s.update now action).state.dayCount := by
  cases hpub : action.isPublication with
  | false =>
    rw [s.dayCount_update_of_not_publication now hpub]
    exact h.move (s.steers_update now hpub).cursor
  | true =>
    cases action with
    | menuPublished menu =>
      rw [dayCount_update_menuPublished]
      cases menu with
      | none =>
        rw [Option.elim_none, ← hnone rfl]
        exact h
      | some g => exact s.cursor.onGrid_clamp g.dayCount
    | _ => cases hpub

theorem onGrid_after {s : State} (h : s.cursor.OnGrid s.dayCount) {actions : List (Nat × Action)}
    (hgrids : ∀ a ∈ actions, a.2.Publishes fun menu => menu.isSome) :
    (s.after actions).cursor.OnGrid (s.after actions).dayCount := by
  induction actions generalizing s with
  | nil => exact h
  | cons a actions ih =>
    obtain ⟨hgrid, hrest⟩ := List.forall_mem_cons.mp hgrids
    apply ih _ hrest
    apply onGrid_update h
    intro hnone
    cases hgrid none hnone

structure Steady (days : DayTable) (s : State) : Prop where
  table : s.days = days
  dayCount : s.dayCount = days.dayCount
  cursor : s.cursor.OnGrid days.dayCount

namespace Steady

variable {days : DayTable} {s : State}

theorem update (h : s.Steady days) (now : Nat) {action : Action}
    (hgrid : action.Publishes fun menu => ∀ g, menu = some g → g.dayCount = days.dayCount) :
    (s.update now action).state.Steady days := by
  have hcount : (s.update now action).state.dayCount = days.dayCount := by
    cases hpub : action.isPublication with
    | false => rw [s.dayCount_update_of_not_publication now hpub, h.dayCount]
    | true =>
      cases action with
      | menuPublished menu =>
        rw [dayCount_update_menuPublished]
        cases menu with
        | none => rw [Option.elim_none, h.table]
        | some g => exact hgrid _ rfl g rfl
      | _ => cases hpub
  refine ⟨(s.days_update now action).trans h.table, hcount, ?_⟩
  rw [← hcount]
  apply onGrid_update
  . rw [h.dayCount]
    exact h.cursor
  . intro _
    rw [h.dayCount, h.table]

theorem after (h : s.Steady days) {actions : List (Nat × Action)}
    (hgrids : ∀ a ∈ actions,
      a.2.Publishes fun menu => ∀ g, menu = some g → g.dayCount = days.dayCount) :
    (s.after actions).Steady days := by
  induction actions generalizing s with
  | nil => exact h
  | cons a actions ih =>
    obtain ⟨hgrid, hrest⟩ := List.forall_mem_cons.mp hgrids
    exact ih (h.update a.1 hgrid) hrest

theorem day_lt (h : s.Steady days) (hdays : 0 < days.dayCount) : s.cursor.day < s.dayCount := by
  rw [h.dayCount]
  exact h.cursor.lt hdays

end Steady

theorem isSome_slotAddress? {s : State} (h : s.cursor.day < s.days.dayCount) :
    s.slotAddress?.isSome := by
  unfold slotAddress? DayTable.tokenFor? DayTable.label?
  rw [Option.isSome_map, Option.isSome_map, isSome_getElem?]
  exact h

theorem update_moveRight_moveLeft {s : State} (h : s.cursor.day < s.dayCount) (now later : Nat) :
    ((s.update now .moveRight).state.update later .moveLeft).state = s := by
  change { s with cursor := (s.cursor.right s.dayCount).left s.dayCount } = s
  rw [Cursor.left_right h]

theorem update_moveLeft_moveRight {s : State} (h : s.cursor.day < s.dayCount) (now later : Nat) :
    ((s.update now .moveLeft).state.update later .moveRight).state = s := by
  change { s with cursor := (s.cursor.left s.dayCount).right s.dayCount } = s
  rw [Cursor.right_left h]

theorem after_cursor {s₀ : State} (h : s₀.IsStart) (actions : List (Nat × Action)) :
    let s := s₀.after actions
    ((∀ a ∈ actions, a.2.Publishes fun menu => menu.isSome) →
      s.cursor.day < max s.dayCount 1) ∧
    (0 < s₀.days.dayCount →
      (∀ a ∈ actions,
        a.2.Publishes fun menu => ∀ g, menu = some g → g.dayCount = s₀.days.dayCount) →
      s.days = s₀.days ∧ s.cursor.day < s.days.dayCount ∧ s.slotAddress?.isSome ∧
      ∀ now later,
        ((s.update now .moveRight).state.update later .moveLeft).state = s ∧
        ((s.update now .moveLeft).state.update later .moveRight).state = s) := by
  intro s
  obtain ⟨hmenu, hcursor⟩ := h.eq
  have hstart : ∀ n, s₀.cursor.OnGrid n := by
    rw [hcursor]
    exact Cursor.onGrid_start
  constructor
  . exact onGrid_after (hstart _)
  . intro hdays hgrids
    have hsteady : s.Steady s₀.days :=
      Steady.after ⟨rfl, dayCount_of_menu_none hmenu, hstart _⟩ hgrids
    have hday : s.cursor.day < s.days.dayCount := by
      rw [hsteady.table]
      exact hsteady.cursor.lt hdays
    refine ⟨hsteady.table, hday, isSome_slotAddress? hday, ?_⟩
    intro now later
    have hshown := hsteady.day_lt hdays
    exact ⟨update_moveRight_moveLeft hshown now later,
      update_moveLeft_moveRight hshown now later⟩

theorem after_cursor_resized :
    let resized : List (Nat × Action) := [(0, .menuPublished (some (.empty 9))),
      (0, .selectSlot 8 .lower), (0, .menuPublished (some (.empty 3))), (0, .moveUp)]
    let steady : List (Nat × Action) := [(0, .menuPublished (some (.empty 6))), (0, .moveLeft),
      (0, .menuPublished none)]
    let s := initial.after resized
    let t := initial.after steady
    s.dayCount = 3 ∧ s.cursor = ⟨2, .upper⟩ ∧ s.cursor.day < max s.dayCount 1 ∧
    t.cursor = ⟨5, .upper⟩ ∧ t.cursor.day < t.days.dayCount ∧ t.slotAddress?.isSome ∧
    ((t.update 0 .moveRight).state.update 0 .moveLeft).state = t := by
  intro resized steady s t
  have hgrids : ∀ a ∈ resized, a.2.Publishes fun menu => menu.isSome := by
    simp [resized, Action.Publishes]
  have hsteady : ∀ a ∈ steady, a.2.Publishes fun menu =>
      ∀ g, menu = some g → g.dayCount = initial.days.dayCount := by
    have hsix : initial.days.dayCount = 6 := rfl
    simp [steady, Action.Publishes, hsix]
  have hs := (after_cursor .initial resized).1 hgrids
  obtain ⟨_, hday, haddress, hback⟩ := (after_cursor .initial steady).2 (by decide) hsteady
  exact ⟨rfl, rfl, hs, rfl, hday, haddress, (hback 0 0).1⟩

end State
end WeekMenu

import WeekMenu.Proofs.State.Update
import WeekMenu.Screen.CommandBox
import WeekMenu.State.Event

/-!
This module contains facts about the menu that a state shows: only a publication of the store
changes it, and nothing that the user can do stands for a publication.
-/

namespace WeekMenu

def Action.isPublication : Action → Bool
  | .menuPublished _ => true
  | _ => false

theorem Action.not_isPublication_of_lookup [BEq α] [LawfulBEq α] {k : α}
    {table : List (α × Action)} (h : ∀ entry ∈ table, entry.2.isPublication = false)
    {action : Action} (ha : table.lookup k = some action) : action.isPublication = false := by
  obtain ⟨before, after, rfl, _⟩ := List.lookup_eq_some_iff.mp ha
  exact h (k, action) (by simp)

namespace KeyMap

def Quiet (m : KeyMap) : Prop :=
  ∀ binding ∈ m.bindings, binding.2.isPublication = false

theorem Quiet.bind {m : KeyMap} (h : m.Quiet) {action : Action}
    (ha : action.isPublication = false) (chord : Chord) : (m.bind chord action).Quiet := by
  intro binding hmem
  unfold KeyMap.bind at hmem
  rw [List.mem_cons, List.mem_filter] at hmem
  rcases hmem with rfl | ⟨hmem, _⟩
  . exact ha
  . exact h binding hmem

theorem quiet_builtIn (profile : String) : (builtIn profile).Quiet := by
  have hkeys : ∀ key ∈ shared ++ ofProfile profile, key.2.isPublication = false := by
    rw [List.forall_mem_append]
    unfold ofProfile
    split
    . decide
    . decide
  unfold builtIn
  apply List.foldlRecOn
  . simp [Quiet]
  . intro m hm key hkey
    exact hm.bind (hkeys key hkey) _

theorem Quiet.bindCustom {m : KeyMap} (h : m.Quiet) (binding : String × String) :
    (m.bindCustom binding).Quiet := by
  unfold KeyMap.bindCustom
  split
  . next haction => exact h.bind (Action.not_isPublication_of_lookup (by decide) haction) _
  . exact h

theorem quiet_ofConfig (config : KeyConfig) : (ofConfig config).Quiet := by
  unfold ofConfig
  apply List.foldlRecOn
  . exact quiet_builtIn config.profile
  . intro m hm binding _
    exact hm.bindCustom binding

theorem Quiet.action? {m : KeyMap} (h : m.Quiet) {key : Key} {action : Action}
    (ha : m.action? key = some action) : action.isPublication = false :=
  Action.not_isPublication_of_lookup h ha

end KeyMap

namespace State

theorem not_isPublication_barAction (key : Key) : (barAction key).isPublication = false := by
  unfold barAction
  repeat' split
  all_goals rfl

theorem not_isPublication_of_helpAction? {key : Key} {action : Action}
    (h : helpAction? key = some action) : action.isPublication = false := by
  unfold helpAction? at h
  split at h
  all_goals cases h
  all_goals rfl

theorem not_isPublication_of_mailAction? {key : Key} {action : Action}
    (h : mailAction? key = some action) : action.isPublication = false := by
  unfold mailAction? at h
  split at h
  all_goals cases h
  all_goals rfl

theorem not_isPublication_of_themeAction? {key : Key} {action : Action}
    (h : themeAction? key = some action) : action.isPublication = false := by
  unfold themeAction? at h
  split at h
  all_goals cases h
  all_goals rfl

theorem not_isPublication_of_normalAction? {s : State} (hk : s.keymap.Quiet) {key : Key}
    {action : Action} (h : s.normalAction? key = some action) : action.isPublication = false := by
  unfold normalAction? at h
  split at h
  . cases h
    rfl
  . split at h
    . cases h
      rfl
    . exact hk.action? h

theorem not_isPublication_of_keyAction? {s : State} (hk : s.keymap.Quiet) {key : Key}
    {action : Action} (h : s.keyAction? key = some action) : action.isPublication = false := by
  unfold keyAction? at h
  split at h
  . cases h
    exact not_isPublication_barAction key
  . exact not_isPublication_of_helpAction? h
  . exact not_isPublication_of_mailAction? h
  . exact not_isPublication_of_themeAction? h
  . exact not_isPublication_of_normalAction? hk h

theorem not_isPublication_of_mouseAction? {s : State} {width height x y : Nat}
    {motion : MouseMotion} {action : Action}
    (h : s.mouseAction? width height motion x y = some action) : action.isPublication = false := by
  unfold mouseAction? at h
  split at h
  . cases h
    rfl
  . cases h
    rfl
  . cases h
    rfl
  . cases h
    rfl
  . rw [Option.map_eq_some_iff] at h
    obtain ⟨slot, _, rfl⟩ := h
    rfl
  . cases h

theorem not_isPublication_of_action? {s : State} (hk : s.keymap.Quiet) {width height : Nat}
    {event : Event} {action : Action} (h : s.action? width height event = some action) :
    action.isPublication = false := by
  cases event with
  | key key =>
    unfold State.action? at h
    dsimp only at h
    split at h
    . cases h
    . exact not_isPublication_of_keyAction? hk h
  | mouse motion x y => exact not_isPublication_of_mouseAction? h
  | resize width height =>
    cases h
    rfl
  | paste text => cases h
  | focus gained => cases h

structure SameMenu (s t : State) : Prop where
  menu : t.menu = s.menu
  summary : t.summary = s.summary
  keymap : t.keymap = s.keymap

namespace SameMenu

theorem refl (s : State) : s.SameMenu s := ⟨rfl, rfl, rfl⟩

theorem afterDrawing (s : State) (width height : Nat) :
    s.SameMenu (s.afterDrawing width height) := by
  unfold State.afterDrawing
  split
  . split
    . exact refl s
    . exact ⟨rfl, rfl, rfl⟩
  . exact refl s

end SameMenu

theorem sameMenu_update (s : State) (now : Nat) {action : Action}
    (h : action.isPublication = false) : s.SameMenu (s.update now action).state := by
  cases hweek : action.concernsWeek with
  | false =>
    have hkept := s.keeps_update now hweek
    exact ⟨hkept.menu, hkept.summary, hkept.keymap⟩
  | true =>
    cases action with
    | moveLeft => exact ⟨rfl, rfl, rfl⟩
    | moveRight => exact ⟨rfl, rfl, rfl⟩
    | moveUp => exact ⟨rfl, rfl, rfl⟩
    | moveDown => exact ⟨rfl, rfl, rfl⟩
    | selectSlot day zone =>
      unfold update
      dsimp only
      split
      . exact ⟨rfl, rfl, rfl⟩
      . exact ⟨rfl, rfl, rfl⟩
    | commandExecuted command outcome =>
      unfold update
      dsimp only
      obtain ⟨_, _, hdone⟩ | ⟨_, _, hdone⟩ := s.commandDone_cases now command outcome
      all_goals
        rw [hdone]
        exact ⟨rfl, rfl, rfl⟩
    | menuPublished menu => cases h
    | _ => cases hweek

theorem showMenu_menu (s : State) (menu : Option Grid) : (s.showMenu menu).menu = menu := by
  cases menu <;> rfl

theorem showMenu_summary (s : State) (menu : Option Grid) :
    (s.showMenu menu).summary = .ofMenu menu := by
  cases menu <;> rfl

theorem showMenu_keymap (s : State) (menu : Option Grid) : (s.showMenu menu).keymap = s.keymap := by
  cases menu <;> rfl

end State
end WeekMenu

import WeekMenu.Proofs.History.Recent
import WeekMenu.Proofs.State.Update
import WeekMenu.Session

/-!
This module contains the history of commands over a run of the program: which commands are
remembered in which order, and that their file holds them.
-/

namespace WeekMenu

def Action.accepted? : Action → Option String
  | .commandExecuted command outcome => if outcome.success then some command else none
  | _ => none

namespace State

structure Remembers (s : State) (command : Option String) (t : State) : Prop where
  recents : t.recents = command.elim s.recents (History.remember s.recents)
  historyPath : t.historyPath = s.historyPath

theorem remembers_update (s : State) (now : Nat) (action : Action) :
    s.Remembers action.accepted? (s.update now action).state := by
  cases hweek : action.concernsWeek with
  | false =>
    have hkept := s.keeps_update now hweek
    have hnone : action.accepted? = none := by
      cases action with
      | commandExecuted => cases hweek
      | _ => rfl
    rw [hnone]
    exact ⟨hkept.recents, hkept.historyPath⟩
  | true =>
    cases action with
    | moveLeft => exact ⟨rfl, rfl⟩
    | moveRight => exact ⟨rfl, rfl⟩
    | moveUp => exact ⟨rfl, rfl⟩
    | moveDown => exact ⟨rfl, rfl⟩
    | selectSlot day zone =>
      unfold State.update
      dsimp only
      split
      . exact ⟨rfl, rfl⟩
      . exact ⟨rfl, rfl⟩
    | commandExecuted command outcome =>
      unfold State.update
      dsimp only [Action.accepted?]
      obtain ⟨hfailed, _, hdone⟩ | ⟨ho, _, hdone⟩ := s.commandDone_cases now command outcome
      . rw [hdone, hfailed, if_neg Bool.false_ne_true]
        exact ⟨rfl, rfl⟩
      . rw [hdone, ho, if_pos rfl]
        refine ⟨?_, rfl⟩
        rw [Option.elim_some]
    | menuPublished menu =>
      unfold State.update
      dsimp only
      obtain ⟨_, hshown⟩ := s.showMenu_eq menu
      rw [hshown]
      exact ⟨rfl, rfl⟩
    | _ => cases hweek

def after (s : State) (actions : List (Nat × Action)) : State :=
  actions.foldl (fun s a => (s.update a.1 a.2).state) s

def accepted (actions : List (Nat × Action)) : List String :=
  actions.filterMap fun a => a.2.accepted?

theorem recents_after (s : State) (actions : List (Nat × Action)) :
    (s.after actions).recents = (accepted actions).foldl History.remember s.recents := by
  induction actions generalizing s with
  | nil => rfl
  | cons a actions ih =>
    have hstep := (s.remembers_update a.1 a.2).recents
    have hrest := ih (s.update a.1 a.2).state
    unfold after accepted at hrest ⊢
    rw [List.foldl_cons, hrest, hstep, List.filterMap_cons]
    cases a.2.accepted? with
    | none => rfl
    | some command => rw [Option.elim_some, List.foldl_cons]

theorem historyPath_after (s : State) (actions : List (Nat × Action)) :
    (s.after actions).historyPath = s.historyPath := by
  induction actions generalizing s with
  | nil => rfl
  | cons a actions ih => exact (ih _).trans (s.remembers_update a.1 a.2).historyPath

end State

namespace Session

theorem react_commandExecuted (s : Session) (command : String) (outcome : Outcome) :
    let done := s.state.commandDone s.now command outcome
    let t := (s.react (.commandExecuted command outcome)).1
    t.state = done.state ∧
    t.planner = s.planner.keepHistory s.state.historyPath done.history := by
  intro done t
  have hrequest : (s.state.update s.now (.commandExecuted command outcome)).request = none :=
    s.state.commandDone_request s.now command outcome
  unfold t react
  dsimp only
  rw [hrequest]
  exact ⟨rfl, rfl⟩

theorem load_react {s t : Session} {command : String} {outcome : Outcome}
    (ht : (s.react (.commandExecuted command outcome)).1 = t) (ho : outcome.success = true)
    (hcommand : Text.trim command ≠ "") {path : String}
    (hpath : s.state.historyPath = some path)
    (hsaves : History.Saves s.planner.store.disk.files path t.state.recents) :
    History.load t.planner.store.disk.files path = t.state.recents := by
  obtain ⟨hstate, hplanner⟩ := s.react_commandExecuted command outcome
  rw [ht] at hstate hplanner
  rw [hpath, s.state.commandDone_history s.now hcommand ho, ← hstate] at hplanner
  rw [hplanner]
  exact Planner.load_keepHistory hsaves

theorem react_remembers {s : State} (hdistinct : s.recents.Nodup) (hlimit : s.recents.length ≤ 20)
    (actions : List (Nat × Action)) :
    let commands := ((State.accepted actions).map Text.trim).filter (· ≠ "")
    let t := s.after actions
    t.recents = (commands.reverse ++ s.recents).eraseDups.take 20 ∧
    t.recents.Nodup ∧ t.recents.length ≤ 20 ∧
    ∀ (u : Session) (command : String) (outcome : Outcome), u.state = t →
      outcome.success = true → Text.trim command ≠ "" →
      let v := (u.react (.commandExecuted command outcome)).1
      v.state.recents
        = ((commands ++ [Text.trim command]).reverse ++ s.recents).eraseDups.take 20 ∧
      ∀ path, s.historyPath = some path →
        History.Saves u.planner.store.disk.files path v.state.recents →
        History.load v.planner.store.disk.files path = v.state.recents := by
  intro commands t
  have hstart : s.recents = s.recents.eraseDups.take History.limit := by
    rw [Distinct.eraseDups_eq_self hdistinct]
    exact (List.take_of_length_le hlimit).symm
  have hrecents : t.recents = (commands.reverse ++ s.recents).eraseDups.take 20 := by
    unfold t
    rw [State.recents_after, hstart, History.foldl_remember, ← hstart]
    rfl
  refine ⟨hrecents, ?_, ?_, ?_⟩
  . rw [hrecents]
    apply (Distinct.nodup_eraseDups _).take
  . rw [hrecents, List.length_take]
    apply Nat.min_le_left
  . intro u command outcome hstate ho hcommand v
    have hpath : u.state.historyPath = s.historyPath := by
      rw [hstate]
      apply State.historyPath_after
    constructor
    . obtain ⟨hdone, _⟩ := u.react_commandExecuted command outcome
      calc v.state.recents
        _ = History.remember t.recents command := by
          rw [hdone, u.state.recents_commandDone u.now command ho, hstate]
        _ = (Text.trim command :: (commands.reverse ++ s.recents)).eraseDups.take 20 := by
          rw [hrecents]
          exact History.remember_take_eraseDups hcommand _
        _ = ((commands ++ [Text.trim command]).reverse ++ s.recents).eraseDups.take 20 := by
          rw [List.reverse_concat]
          rfl
    . intro path hhistory
      exact load_react rfl ho hcommand (hpath.trans hhistory)

theorem react_remembers_again :
    let s : State := .new .standard ⟨[]⟩ (some "history.toml") ["gen", "mon-u-clear"]
    let actions : List (Nat × Action) := [(0, .commandExecuted "mon-u-clear " (.accepted "")),
      (1, .commandExecuted "mon" (.rejected .invalidSyntax)), (2, .tick)]
    let t := s.after actions
    let store : Store Disk := .new (.ofFiles .empty .memory) ⟨[]⟩ 1
    let u : Session := ⟨⟨.standard, "", ⟨[]⟩, ⟨[]⟩, store⟩, t, 0, [], t, 80, 24, 3, false, none⟩
    let v := (u.react (.commandExecuted "mon-u-t \"a\"" (.accepted ""))).1
    t.recents = ["mon-u-clear", "gen"] ∧
    v.state.recents = ["mon-u-t \"a\"", "mon-u-clear", "gen"] ∧
    History.load v.planner.store.disk.files "history.toml" = v.state.recents := by
  intro s actions t store u v
  obtain ⟨hrecents, _, _, hreact⟩ := react_remembers (s := s) (by decide) (by decide) actions
  obtain ⟨hremembered, hload⟩ :=
    hreact u "mon-u-t \"a\"" (.accepted "") rfl rfl (by decide +kernel)
  have hrecents' : v.state.recents = ["mon-u-t \"a\"", "mon-u-clear", "gen"] :=
    hremembered.trans (by decide +kernel)
  refine ⟨hrecents.trans (by decide +kernel), hrecents', hload "history.toml" rfl ?_⟩
  rw [hrecents']
  refine ⟨FileTree.empty.put ["history.toml"] (.file
    (History.toText ["mon-u-t \"a\"", "mon-u-clear", "gen"])), ?_⟩
  decide +kernel

end Session
end WeekMenu

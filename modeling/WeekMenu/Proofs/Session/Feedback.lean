import WeekMenu.Proofs.State.Update
import WeekMenu.Session

/-!
This module contains the proof that the loop of actions and answers ends: an action may ask for
something that is answered at once, but no answer asks for anything, whatever the state has become
in the meantime.
-/

namespace WeekMenu

namespace Planner

theorem request_of_serve {p : Planner} {request : Request} {answer : Action}
    (h : (p.serve request).1 = some answer) (s : State) (now : Nat) :
    (s.update now answer).request = none := by
  cases request with
  | execute text =>
    cases h
    exact s.commandDone_request now text _
  | reloadMenu => cases h
  | generateMail =>
    unfold serve at h
    dsimp only at h
    split at h
    . cases h
      rfl
    . cases h
      rfl
  | saveMail mail =>
    cases h
    unfold State.update
    dsimp only
    split
    . rfl
    . rfl

theorem grid_keepHistory (p : Planner) (path : Option String) (recents : Option (List String)) :
    (p.keepHistory path recents).store.grid = p.store.grid := by
  unfold keepHistory
  split
  . rfl
  . rfl

end Planner

namespace Session

theorem serve_of_perform {s : Session} {request : Request} {answer : Action}
    (h : (s.perform request).2 = some answer) : (s.planner.serve request).1 = some answer := by
  unfold perform at h
  dsimp only at h
  split at h
  . cases h
  . next hanswer =>
    split at h
    . cases h
    . rwa [hanswer]

theorem react_of_react {s t : Session} {action answer : Action}
    (h : s.react action = (t, some answer)) : (t.react answer).2 = none := by
  have hnone : (t.state.update t.now answer).request = none := by
    unfold react at h
    dsimp only at h
    split at h
    . cases h
    . exact Planner.request_of_serve (serve_of_perform (congrArg Prod.snd h)) _ _
  unfold react
  dsimp only
  rw [hnone]

theorem isSome_perform_iff (s : Session) (request : Request) :
    (s.perform request).2.isSome ↔
      (∃ text, request = .execute text) ∨
      request = .generateMail ∧ s.planner.store.grid = none := by
  cases request with
  | execute text => exact ⟨fun _ => Or.inl ⟨text, rfl⟩, fun _ => rfl⟩
  | reloadMenu => exact ⟨nofun, by rintro (⟨_, ⟨⟩⟩ | ⟨⟨⟩, _⟩)⟩
  | saveMail mail => exact ⟨nofun, by rintro (⟨_, ⟨⟩⟩ | ⟨⟨⟩, _⟩)⟩
  | generateMail =>
    unfold perform Planner.serve Planner.mail?
    cases hgrid : s.planner.store.grid with
    | none => exact ⟨fun _ => Or.inr ⟨rfl, rfl⟩, fun _ => rfl⟩
    | some g => exact ⟨nofun, by rintro (⟨_, ⟨⟩⟩ | ⟨_, ⟨⟩⟩)⟩

theorem isSome_react_iff (s : Session) (action : Action) :
    (s.react action).2.isSome ↔
      (∃ text, (s.state.update s.now action).request = some (.execute text)) ∨
      (s.state.update s.now action).request = some .generateMail ∧
        s.planner.store.grid = none := by
  unfold react
  dsimp only
  split
  . next hnone => simp [hnone]
  . next request hrequest =>
    rw [isSome_perform_iff, hrequest, Planner.grid_keepHistory]
    simp only [Option.some.injEq]

/--
The loop without a limit: an action and the answers that follow at once, `n` actions in all, lead
from one session to another one.
-/
inductive Feeds : Session → Action → Nat → Session → Prop where
  | last {s t : Session} {action : Action} (h : s.react action = (t, none)) : Feeds s action 1 t
  | next {s t u : Session} {action answer : Action} {n : Nat}
      (h : s.react action = (t, some answer)) (hrest : Feeds t answer n u) :
      Feeds s action (n + 1) u

namespace Feeds

variable {s t u : Session} {action : Action} {m n : Nat}

theorem unique (h : s.Feeds action n t) (h' : s.Feeds action m u) : m = n ∧ u = t := by
  induction h generalizing m u with
  | last heq =>
    cases h' with
    | last heq' =>
      rw [heq] at heq'
      cases heq'
      exact ⟨rfl, rfl⟩
    | next heq' _ =>
      rw [heq] at heq'
      cases heq'
  | next heq _ ih =>
    cases h' with
    | last heq' =>
      rw [heq] at heq'
      cases heq'
    | next heq' hrest' =>
      rw [heq] at heq'
      cases heq'
      obtain ⟨rfl, rfl⟩ := ih hrest'
      exact ⟨rfl, rfl⟩

theorem feed_eq (h : s.Feeds action n t) {limit : Nat} (hlimit : n ≤ limit) :
    s.feed limit action = t := by
  induction h generalizing limit with
  | last heq =>
    obtain ⟨limit, rfl⟩ := Nat.exists_eq_add_of_le' hlimit
    rw [feed, heq]
  | next heq _ ih =>
    obtain ⟨limit, rfl⟩ := Nat.exists_eq_add_of_le' (Nat.le_trans (Nat.le_add_left 1 _) hlimit)
    rw [feed, heq]
    exact ih (Nat.le_of_add_le_add_right hlimit)

end Feeds

theorem exists_feeds (s : Session) (action : Action) :
    ∃ t, s.Feeds action (if (s.react action).2.isSome then 2 else 1) t := by
  obtain ⟨t, answer, heq⟩ : ∃ t answer, s.react action = (t, answer) := ⟨_, _, rfl⟩
  cases answer with
  | none =>
    rw [heq]
    exact ⟨t, .last heq⟩
  | some answer =>
    have hlast : t.react answer = ((t.react answer).1, none) := by
      rw [← react_of_react heq]
    rw [heq]
    exact ⟨_, .next heq (.last hlast)⟩

theorem feeds_ends (s : Session) (action : Action) :
    (∀ (p : Planner) (request : Request) (answer : Action), (p.serve request).1 = some answer →
      ∀ (state : State) (now : Nat), (state.update now answer).request = none) ∧
    ∃ n t, s.Feeds action n t ∧ n ≤ 2 ∧
      (n = 2 ↔
        (∃ text, (s.state.update s.now action).request = some (.execute text)) ∨
        (s.state.update s.now action).request = some .generateMail ∧
          s.planner.store.grid = none) ∧
      (∀ m u, s.Feeds action m u → m = n ∧ u = t) ∧
      ∀ limit, feedLimit ≤ limit → s.feed limit action = t := by
  refine ⟨fun p request answer h => Planner.request_of_serve h, ?_⟩
  obtain ⟨t, h⟩ := s.exists_feeds action
  have hle : (if (s.react action).2.isSome then 2 else 1) ≤ 2 := by
    split
    . exact Nat.le_refl 2
    . exact Nat.le_succ 1
  refine ⟨_, t, h, hle, ?_, fun m u h' => h.unique h', ?_⟩
  . rw [← isSome_react_iff]
    split
    . next hsome => exact iff_of_true rfl hsome
    . next hnone => exact iff_of_false (by decide) hnone
  . intro limit hlimit
    exact h.feed_eq (Nat.le_trans hle hlimit)

theorem feeds_ends_unloaded :
    let store : Store Disk := .new (.ofFiles .empty .memory) ⟨[]⟩ 1
    let s : Session :=
      ⟨⟨.standard, "", ⟨[]⟩, ⟨[]⟩, store⟩, .initial, 0, [], .initial, 80, 24, 0, false, none⟩
    let answer : Action := .errorOccurred Rejection.uninitialized.message
    (s.state.update s.now .generateMail).request = some .generateMail ∧
    (s.planner.serve .generateMail).1 = some answer ∧
    (∀ (state : State) (now : Nat), (state.update now answer).request = none) ∧
    ∃ t, s.Feeds .generateMail 2 t ∧ t.state.trouble.isSome ∧ s.feed 9 .generateMail = t := by
  intro store s answer
  have hanswer : (s.planner.serve .generateMail).1 = some answer := rfl
  obtain ⟨hquiet, n, t, hfeeds, _, htwo, _, hlimit⟩ := feeds_ends s .generateMail
  obtain rfl : n = 2 := htwo.mpr (Or.inr ⟨rfl, rfl⟩)
  refine ⟨rfl, hanswer, hquiet _ _ _ hanswer, t, hfeeds, ?_, hlimit 9 (by decide)⟩
  rw [← hlimit 2 (by decide)]
  rfl

end Session
end WeekMenu

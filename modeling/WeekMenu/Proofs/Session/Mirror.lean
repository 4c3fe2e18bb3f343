import WeekMenu.Proofs.State.Menu
import WeekMenu.Proofs.Store.Publication
import WeekMenu.Session

/-!
This module contains the proof that the state of a session mirrors the store: it shows the grid of
the store, or the grid is on its way to it.
-/

namespace WeekMenu

namespace Planner

theorem announces_saveMail (p : Planner) (mail : String) :
    p.store.Announces (p.saveMail mail).2.store := by
  unfold saveMail
  split
  . exact .refl p.store
  . split
    . exact .kept rfl rfl
    . exact .kept rfl rfl

theorem announces_serve (p : Planner) (request : Request) :
    p.store.Announces (p.serve request).2.store := by
  cases request with
  | execute text => exact p.store.announces_execute p.config.days text
  | reloadMenu => exact p.store.announces_reloadIfChanged
  | generateMail =>
    unfold serve
    dsimp only
    split
    . exact .refl p.store
    . exact .refl p.store
  | saveMail mail => exact p.announces_saveMail mail

theorem announces_keepHistory (p : Planner) (path : Option String)
    (recents : Option (List String)) :
    p.store.Announces (p.keepHistory path recents).store := by
  unfold keepHistory
  split
  . exact .kept rfl rfl
  . exact .refl p.store

theorem not_isPublication_of_serve {p : Planner} {request : Request} {action : Action}
    (h : (p.serve request).1 = some action) : action.isPublication = false := by
  cases request with
  | execute text =>
    cases h
    rfl
  | reloadMenu => cases h
  | generateMail =>
    unfold serve at h
    dsimp only at h
    split at h
    . cases h
      rfl
    . cases h
      rfl
  | saveMail mail =>
    cases h
    rfl

end Planner

namespace Session

inductive Happening where
  | signal (signal : Signal)
  | diskChanged (disk : Disk)
  | waited (milliseconds : Nat)

def happen (s : Session) : Happening → Session
  | .signal signal => s.step signal
  | .diskChanged disk =>
    { s with planner := { s.planner with store := { s.planner.store with disk } } }
  | .waited milliseconds => { s with now := s.now + milliseconds }

def run (s : Session) (happenings : List Happening) : Session :=
  happenings.foldl happen s

def IsWaiting (s : Session) : Prop :=
  s.seen < s.planner.store.published.count

/--
The invariant of a session. The subscribers of the store see its grid, and the state shows that grid
unless the publication is still on its way.
-/
structure Mirrors (s : Session) : Prop where
  seen_le : s.seen ≤ s.planner.store.published.count
  answers : ∀ action ∈ s.answers, isBackground action = true
  keymap : s.state.keymap.Quiet
  shows : ∃ g, s.planner.store.grid = some g ∧ s.planner.store.published.grid = some g ∧
    (s.seen = s.planner.store.published.count →
      s.state.menu = some g ∧ s.state.summary = .ofGrid g)

theorem not_isPublication_of_isBackground {action : Action} (h : isBackground action = true) :
    action.isPublication = false := by
  unfold isBackground at h
  split at h
  . rfl
  . rfl
  . cases h

namespace Mirrors

variable {s : Session}

theorem withPlanner (h : s.Mirrors) {p : Planner} (hp : s.planner.store.Announces p.store) :
    { s with planner := p }.Mirrors := by
  obtain ⟨hseen, hanswers, hkeymap, g, hgrid, hpublished, hshown⟩ := h
  cases hp with
  | kept hgrid' hpublished' =>
    refine ⟨?_, hanswers, hkeymap, g, hgrid'.trans hgrid, ?_, ?_⟩
    . rwa [hpublished']
    . rwa [hpublished']
    . rwa [hpublished']
  | published g' hgrid' hpublished' hcount =>
    -- The state has not seen this publication, so nothing is said about what it shows.
    have hlt : s.seen < p.store.published.count := Nat.lt_of_le_of_lt hseen hcount
    refine ⟨Nat.le_of_lt hlt, hanswers, hkeymap, g', hgrid', hpublished', ?_⟩
    intro heq
    exact absurd heq (Nat.ne_of_lt hlt)

theorem withState (h : s.Mirrors) {state : State} (hs : s.state.SameMenu state) :
    { s with state }.Mirrors := by
  obtain ⟨hseen, hanswers, hkeymap, g, hgrid, hpublished, hshown⟩ := h
  refine ⟨hseen, hanswers, ?_, g, hgrid, hpublished, ?_⟩
  . rwa [hs.keymap]
  . rwa [hs.menu, hs.summary]

theorem draw (h : s.Mirrors) : s.draw.Mirrors := by
  obtain ⟨hseen, hanswers, hkeymap, hshows⟩ := h.withState (.afterDrawing s.state s.width s.height)
  exact ⟨hseen, hanswers, hkeymap, hshows⟩

theorem perform (h : s.Mirrors) (request : Request) :
    (s.perform request).1.Mirrors ∧
      ∀ action, (s.perform request).2 = some action → action.isPublication = false := by
  have hserved := h.withPlanner (s.planner.announces_serve request)
  unfold Session.perform
  dsimp only
  split
  . exact ⟨hserved, by simp⟩
  . next action haction =>
    split
    . next hbackground =>
      obtain ⟨hseen, hanswers, hkeymap, hshows⟩ := hserved
      refine ⟨⟨hseen, ?_, hkeymap, hshows⟩, by simp⟩
      rw [List.forall_mem_append]
      exact ⟨hanswers, by simpa using hbackground⟩
    . refine ⟨hserved, ?_⟩
      intro action' heq
      cases heq
      exact Planner.not_isPublication_of_serve haction

theorem react (h : s.Mirrors) {action : Action} (ha : action.isPublication = false) :
    (s.react action).1.Mirrors ∧
      ∀ answer, (s.react action).2 = some answer → answer.isPublication = false := by
  have hkept := h.withPlanner (s.planner.announces_keepHistory s.state.historyPath
    (s.state.update s.now action).history)
  have hupdated := hkept.withState (State.sameMenu_update s.state s.now ha)
  unfold Session.react
  dsimp only
  split
  . exact ⟨hupdated, by simp⟩
  . exact hupdated.perform _

theorem feed (h : s.Mirrors) (limit : Nat) {action : Action} (ha : action.isPublication = false) :
    (s.feed limit action).Mirrors := by
  induction limit generalizing s action with
  | zero => exact h
  | succ limit ih =>
    have hreact := h.react ha
    unfold Session.feed
    split
    . next heq =>
      rw [heq] at hreact
      exact hreact.1
    . next heq =>
      rw [heq] at hreact
      exact ih hreact.1 (hreact.2 _ rfl)

theorem resized (h : s.Mirrors) (event : Event) : (s.resized event).Mirrors := by
  cases event with
  | resize width height => exact ⟨h.seen_le, h.answers, h.keymap, h.shows⟩
  | _ => exact h

theorem action? (h : s.Mirrors) {signal : Signal} (hs : signal ≠ .published) :
    (s.action? signal).2.Mirrors ∧
      ∀ action, (s.action? signal).1 = some action → action.isPublication = false := by
  unfold Session.action?
  cases signal with
  | published => exact absurd rfl hs
  | tick => exact ⟨h, by rintro _ ⟨⟩; rfl⟩
  | closed => exact ⟨h, by rintro _ ⟨⟩; rfl⟩
  | fileChanged => exact ⟨h, by rintro _ ⟨⟩; rfl⟩
  | broken message => exact ⟨⟨h.seen_le, h.answers, h.keymap, h.shows⟩, by rintro _ ⟨⟩⟩
  | event event =>
    refine ⟨h.resized event, ?_⟩
    intro action haction
    exact State.not_isPublication_of_action? (h.resized event).keymap haction
  | answered index =>
    -- Only background work leaves its answers here, and none of it publishes.
    refine ⟨⟨h.seen_le, ?_, h.keymap, h.shows⟩, ?_⟩
    . intro action hmem
      exact h.answers action (List.mem_of_mem_eraseIdx hmem)
    . intro action haction
      exact not_isPublication_of_isBackground (h.answers action (List.mem_of_getElem? haction))

theorem deliver (h : s.Mirrors) :
    { s with
      seen := s.planner.store.published.count
      state := s.state.showMenu s.planner.store.published.grid }.Mirrors := by
  obtain ⟨hseen, hanswers, hkeymap, g, hgrid, hpublished, _⟩ := h
  refine ⟨Nat.le_refl _, hanswers, ?_, g, hgrid, hpublished, ?_⟩
  . rwa [State.showMenu_keymap]
  . intro _
    dsimp only
    rw [hpublished, State.showMenu_menu, State.showMenu_summary]
    exact ⟨rfl, rfl⟩

end Mirrors

theorem watch_published (p : Planner) :
    (watch p).1.store.published = p.store.published := by
  unfold watch
  split
  . rfl
  . split
    . rfl
    . rfl

theorem feed_menuPublished (s : Session) (limit : Nat) (menu : Option Grid) :
    s.feed (limit + 1) (.menuPublished menu) = { s with state := s.state.showMenu menu } := by
  have hreact : s.react (.menuPublished menu) =
      ({ s with state := s.state.showMenu menu }, none) := by
    unfold react State.update Planner.keepHistory
    cases s.state.historyPath with
    | none => rfl
    | some path => rfl
  unfold feed
  rw [hreact]

namespace Mirrors

variable {s : Session}

theorem step (h : s.Mirrors) (signal : Signal) : (s.step signal).Mirrors := by
  have hfed : ((s.action? signal).1.elim (s.action? signal).2
      (Session.feed feedLimit (s.action? signal).2)).Mirrors := by
    by_cases hs : signal = .published
    . subst hs
      unfold Session.action?
      dsimp only
      split
      . rw [Option.elim_some, feedLimit, feed_menuPublished]
        exact h.deliver
      . exact h
    . obtain ⟨hleft, haction⟩ := h.action? hs
      cases heq : (s.action? signal).1 with
      | none => exact hleft
      | some action => exact hleft.feed feedLimit (haction action heq)
  unfold Session.step
  split
  . exact h
  . dsimp only
    split
    . exact hfed
    . exact hfed.draw

theorem happen (h : s.Mirrors) (happening : Happening) : (s.happen happening).Mirrors := by
  cases happening with
  | signal signal => exact h.step signal
  | diskChanged disk => exact h.withPlanner (.kept rfl rfl)
  | waited milliseconds => exact ⟨h.seen_le, h.answers, h.keymap, h.shows⟩

theorem run (h : s.Mirrors) (happenings : List Happening) : (s.run happenings).Mirrors := by
  induction happenings generalizing s with
  | nil => exact h
  | cons happening happenings ih =>
    apply ih
    exact h.happen happening

theorem start (p : Planner) {state : State} (hk : state.keymap.Quiet) (width height : Nat) :
    (Session.start p state width height).Mirrors := by
  have hpublished := watch_published p
  unfold Session.start
  dsimp only
  apply draw
  unfold Planner.load
  rw [Store.load_eq]
  refine ⟨?_, by simp, hk, _, rfl, rfl, ?_⟩
  . dsimp only
    rw [hpublished]
    exact Nat.le_succ _
  . intro heq
    dsimp only at heq
    rw [hpublished] at heq
    exact absurd heq (Nat.ne_of_lt (Nat.lt_succ_self _))

end Mirrors

theorem action?_published (s : Session) (h : s.IsWaiting) :
    (s.action? .published).1 = some (.menuPublished s.planner.store.published.grid) := by
  unfold IsWaiting at h
  unfold action?
  dsimp only
  rw [if_pos h]

theorem not_isWaiting_step_published {s : Session} (h : s.isOver = false) :
    ¬(s.step .published).IsWaiting := by
  unfold step action?
  rw [if_neg (by simp [h])]
  dsimp only
  split
  . rw [Option.elim_some, feedLimit, feed_menuPublished]
    dsimp only
    split
    . exact Nat.lt_irrefl _
    . exact Nat.lt_irrefl _
  . next hwaiting =>
    rw [Option.elim_none, if_neg (by simp [h])]
    exact hwaiting

theorem run_mirrors (p : Planner) (config : Config) (catalog : Catalog)
    (historyPath : Option String) (recents : List String) (width height : Nat)
    (happenings : List Happening) :
    let s := (start p (.new config catalog historyPath recents) width height).run happenings
    (∃ g, s.planner.store.grid = some g ∧
      (¬s.IsWaiting → s.state.menu = some g ∧ s.state.summary = .ofGrid g) ∧
      (s.IsWaiting → (s.action? .published).1 = some (.menuPublished (some g)))) ∧
    (s.isOver = false → ¬(s.step .published).IsWaiting) ∧
    ∀ (state : State) (now : Nat) (action : Action), (∀ grid, action ≠ .menuPublished grid) →
      (state.update now action).state.menu = state.menu ∧
      (state.update now action).state.summary = state.summary := by
  intro s
  have hmirrors : s.Mirrors :=
    (Mirrors.start p (KeyMap.quiet_ofConfig config.keys) width height).run happenings
  refine ⟨?_, not_isWaiting_step_published, ?_⟩
  . obtain ⟨g, hgrid, hpublished, hshown⟩ := hmirrors.shows
    refine ⟨g, hgrid, ?_, ?_⟩
    . intro hwaiting
      exact hshown (Nat.le_antisymm hmirrors.seen_le (Nat.le_of_not_lt hwaiting))
    . intro hwaiting
      rw [action?_published s hwaiting, hpublished]
  . intro state now action haction
    have hsame : state.SameMenu (state.update now action).state := by
      apply State.sameMenu_update
      cases action with
      | menuPublished grid => exact absurd rfl (haction grid)
      | _ => rfl
    exact ⟨hsame.menu, hsame.summary⟩

end Session
end WeekMenu

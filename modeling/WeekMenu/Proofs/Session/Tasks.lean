import Mathlib.Data.List.Perm.Basic
import WeekMenu.Proofs.Session.Feedback
import WeekMenu.Proofs.Session.Mirror
import WeekMenu.Proofs.Session.Typing

/-!
This module contains the proof that no task is shown for ever: a task that the state shows is ended
by an answer that is on its way, whatever happens in the meantime.
-/

namespace WeekMenu

def Action.ends : Action → String → Bool
  | .mailGenerated _, task => task == State.generatingMail
  | .mailSaved _, task => task == State.savingMail
  | .errorOccurred _, _ => true
  | _, _ => false

def Request.task? : Request → Option String
  | .generateMail => some State.generatingMail
  | .saveMail _ => some State.savingMail
  | .execute _ => none
  | .reloadMenu => none

namespace State

theorem tasks_update (s : State) (now : Nat) (action : Action) :
    (s.update now action).state.tasks =
      s.tasks.filter (fun task => !action.ends task) ++
        ((s.update now action).request.bind Request.task?).toList := by
  have hall : s.tasks.filter (fun _ => !false) = s.tasks := by simp
  -- Most actions neither end a task nor ask for anything.
  have hkept : ∀ t : State, t.tasks = s.tasks → t.tasks =
      s.tasks.filter (fun _ => !false) ++ ((none : Option Request).bind Request.task?).toList := by
    intro t ht
    rw [hall, ht]
    exact (List.append_nil _).symm
  cases action
  all_goals
    unfold State.update
    dsimp only [Action.ends]
  case clearSelectedSlot =>
    cases s.slotAddress? with
    | none => exact hkept s rfl
    | some slot => exact hkept s rfl
  case generateMail =>
    split
    . rw [hall]
      rfl
    . exact hkept s rfl
  case saveMail =>
    split
    . split
      . rw [hall]
        rfl
      . exact hkept s rfl
    . exact hkept s rfl
  case submitCommand =>
    split
    . exact hkept s rfl
    . dsimp only
      split
      . exact hkept { s with bar := none, mode := .normal } rfl
      . exact hkept { s with bar := none, mode := .normal } rfl
  case commandExecuted command outcome =>
    obtain ⟨_, _, hdone⟩ | ⟨_, _, hdone⟩ := s.commandDone_cases now command outcome
    . rw [hdone]
      exact hkept _ rfl
    . rw [hdone]
      exact hkept _ rfl
  case historyPrev =>
    obtain ⟨_, _, hprev⟩ := s.recalls_historyPrev
    rw [hprev]
    exact hkept _ rfl
  case historyNext =>
    obtain ⟨_, _, hnext⟩ := s.recalls_historyNext
    rw [hnext]
    exact hkept _ rfl
  case confirmThemeSelection =>
    obtain hsame | ⟨_, hchosen⟩ := s.confirmTheme_cases
    . rw [hsame]
      exact hkept _ rfl
    . rw [hchosen]
      exact hkept _ rfl
  case mailGenerated => simp [bne]
  case mailSaved result =>
    cases result with
    | ok path => simp [bne, notify]
    | error cause => simp [bne]
  case tick =>
    obtain hsame | hgone := expireNotice_cases { s with frame := s.frame + 1 } now
    . rw [hsame]
      exact hkept _ rfl
    . rw [hgone]
      exact hkept _ rfl
  case menuPublished menu =>
    obtain ⟨_, hshown⟩ := s.showMenu_eq menu
    rw [hshown]
    exact hkept _ rfl
  case errorOccurred => simp
  all_goals repeat' split
  all_goals exact hkept _ rfl

end State

namespace Planner

theorem serve_task (p : Planner) {request : Request} {task : String}
    (h : request.task? = some task) :
    ∃ answer, (p.serve request).1 = some answer ∧ answer.ends task = true := by
  cases request with
  | execute text => cases h
  | reloadMenu => cases h
  | generateMail =>
    cases h
    unfold serve
    dsimp only
    split
    . exact ⟨_, rfl, rfl⟩
    . exact ⟨_, rfl, rfl⟩
  | saveMail mail =>
    cases h
    exact ⟨_, rfl, rfl⟩

end Planner

namespace Session

/--
Every task that the state shows is ended by an answer that is on its way, or by one of those that
are about to be given. What is on its way is the answer of background work.
-/
structure Awaits (s : Session) (given : List Action) : Prop where
  ended : ∀ task ∈ s.state.tasks, ∃ answer ∈ s.answers ++ given, answer.ends task = true
  background : ∀ answer ∈ s.answers, isBackground answer = true

namespace Awaits

variable {s : Session} {action : Action}

theorem give (h : s.Awaits []) (given : List Action) : s.Awaits given := by
  refine ⟨?_, h.background⟩
  intro task htask
  obtain ⟨answer, hanswer, hends⟩ := h.ended task htask
  rw [List.append_nil] at hanswer
  exact ⟨answer, List.mem_append_left _ hanswer, hends⟩

theorem perform {request : Request}
    (hended : ∀ task ∈ s.state.tasks,
      (∃ answer ∈ s.answers, answer.ends task = true) ∨ request.task? = some task)
    (hbackground : ∀ answer ∈ s.answers, isBackground answer = true) :
    (s.perform request).1.Awaits (s.perform request).2.toList := by
  have hserved : ∀ task ∈ s.state.tasks,
      ∃ answer ∈ s.answers ++ (s.planner.serve request).1.toList, answer.ends task = true := by
    intro task htask
    obtain ⟨answer, hanswer, hends⟩ | hbegins := hended task htask
    . exact ⟨answer, List.mem_append_left _ hanswer, hends⟩
    . obtain ⟨answer, hanswer, hends⟩ := s.planner.serve_task hbegins
      rw [hanswer]
      exact ⟨answer, by simp, hends⟩
  unfold Session.perform
  dsimp only
  split
  . next hnone =>
    rw [hnone] at hserved
    exact ⟨hserved, hbackground⟩
  . next answer hanswer =>
    rw [hanswer] at hserved
    split
    . next hslow =>
      refine ⟨?_, ?_⟩
      . rw [Option.toList_none, List.append_nil]
        exact hserved
      . rw [List.forall_mem_append]
        exact ⟨hbackground, by simpa using hslow⟩
    . exact ⟨hserved, hbackground⟩

theorem react (h : s.Awaits [action]) :
    (s.react action).1.Awaits (s.react action).2.toList := by
  -- What the action does not end is ended by an answer that is still on its way.
  have hkept : ∀ task ∈ s.state.tasks.filter (fun task => !action.ends task),
      ∃ answer ∈ s.answers, answer.ends task = true := by
    intro task htask
    rw [List.mem_filter, Bool.not_eq_true'] at htask
    obtain ⟨answer, hanswer, hends⟩ := h.ended task htask.1
    rw [List.mem_append, List.mem_singleton] at hanswer
    obtain hanswer | rfl := hanswer
    . exact ⟨answer, hanswer, hends⟩
    . rw [htask.2] at hends
      cases hends
  have htasks := s.state.tasks_update s.now action
  unfold Session.react
  dsimp only
  split
  . next hnone =>
    rw [hnone, Option.bind_none, Option.toList_none, List.append_nil] at htasks
    refine ⟨?_, h.background⟩
    rw [Option.toList_none, List.append_nil]
    dsimp only
    rwa [htasks]
  . next request hrequest =>
    rw [hrequest, Option.bind_some] at htasks
    refine perform ?_ h.background
    dsimp only
    rw [htasks, List.forall_mem_append]
    refine ⟨fun task htask => Or.inl (hkept task htask), ?_⟩
    intro task htask
    exact Or.inr (Option.mem_toList.mp htask)

end Awaits

theorem mem_eraseIdx_append {answer : Action} {answers : List Action} (h : answer ∈ answers)
    (index : Nat) : answer ∈ answers.eraseIdx index ++ answers[index]?.toList := by
  by_cases hindex : index < answers.length
  . rw [List.getElem?_eq_getElem hindex, Option.toList_some, List.mem_append, List.mem_singleton]
    rw [← (List.getElem_cons_eraseIdx_perm hindex).mem_iff, List.mem_cons] at h
    exact h.symm
  . rw [List.eraseIdx_of_length_le (Nat.le_of_not_lt hindex)]
    exact List.mem_append_left _ h

def reacted (s : Session) (signal : Signal) : Session :=
  (s.action? signal).1.elim (s.action? signal).2 (Session.feed feedLimit (s.action? signal).2)

theorem step_eq (s : Session) (signal : Signal) :
    s.step signal =
      if s.isOver then
        s
      else if (s.reacted signal).isOver then
        s.reacted signal
      else
        (s.reacted signal).draw :=
  rfl

namespace Awaits

variable {s : Session} {action : Action}

theorem feed (h : s.Awaits [action]) (limit : Nat) : (s.feed (limit + 2) action).Awaits [] := by
  have hreact := h.react
  rw [Session.feed]
  split
  . next t heq =>
    rw [heq] at hreact
    exact hreact
  . next t answer heq =>
    rw [heq] at hreact
    have hanswered : (t.react answer).1.Awaits (t.react answer).2.toList := hreact.react
    have hlast := react_of_react heq
    rw [hlast] at hanswered
    rw [Session.feed]
    split
    . next heq' =>
      rw [heq'] at hanswered
      exact hanswered
    . next heq' =>
      rw [heq'] at hlast
      cases hlast

theorem draw {given : List Action} (h : s.Awaits given) : s.draw.Awaits given := by
  refine ⟨?_, h.background⟩
  have hsame : s.draw.state.tasks = s.state.tasks := by
    unfold Session.draw State.afterDrawing
    dsimp only
    split
    . split
      . rfl
      . rfl
    . rfl
  rw [hsame]
  exact h.ended

theorem resized (h : s.Awaits []) (event : Event) : (s.resized event).Awaits [] := by
  cases event with
  | resize width height => exact ⟨h.ended, h.background⟩
  | _ => exact h

theorem action? (h : s.Awaits []) (signal : Signal) :
    (s.action? signal).2.Awaits (s.action? signal).1.toList := by
  unfold Session.action?
  cases signal with
  | tick => exact h.give _
  | event event => exact (h.resized event).give _
  | closed => exact h.give _
  | broken message => exact ⟨h.ended, h.background⟩
  | published =>
    dsimp only
    split
    . exact ⟨(h.give _).ended, h.background⟩
    . exact h
  | fileChanged => exact h.give _
  | answered index =>
    refine ⟨?_, fun answer hanswer => h.background answer (List.mem_of_mem_eraseIdx hanswer)⟩
    intro task htask
    obtain ⟨answer, hanswer, hends⟩ := h.ended task htask
    rw [List.append_nil] at hanswer
    exact ⟨answer, mem_eraseIdx_append hanswer index, hends⟩

theorem reacted (h : s.Awaits []) (signal : Signal) : (s.reacted signal).Awaits [] := by
  have hleft := h.action? signal
  unfold Session.reacted
  cases heq : (s.action? signal).1 with
  | none =>
    rw [heq] at hleft
    exact hleft
  | some action =>
    rw [heq] at hleft
    exact hleft.feed 0

theorem step (h : s.Awaits []) (signal : Signal) : (s.step signal).Awaits [] := by
  rw [step_eq]
  split
  . exact h
  . split
    . exact h.reacted signal
    . exact (h.reacted signal).draw

theorem happen (h : s.Awaits []) (happening : Happening) : (s.happen happening).Awaits [] := by
  cases happening with
  | signal signal => exact h.step signal
  | diskChanged disk => exact ⟨h.ended, h.background⟩
  | waited milliseconds => exact ⟨h.ended, h.background⟩

end Awaits

inductive Turn where
  | happening (happening : Happening)
  | action (action : Action)
  | store (store : Store Disk)

def turn (s : Session) : Turn → Session
  | .happening happening => s.happen happening
  | .action action =>
    if s.isOver then
      s
    else
      let s := s.feed feedLimit action
      if s.isOver then s else s.draw
  | .store store => { s with planner := { s.planner with store } }

def takeTurns (s : Session) (turns : List Turn) : Session :=
  turns.foldl turn s

namespace Awaits

variable {s : Session}

theorem turn (h : s.Awaits []) (turn : Turn) : (s.turn turn).Awaits [] := by
  cases turn with
  | happening happening => exact h.happen happening
  | action action =>
    have hfed : (s.feed feedLimit action).Awaits [] := (h.give [action]).feed 0
    unfold Session.turn
    dsimp only
    split
    . exact h
    . split
      . exact hfed
      . exact hfed.draw
  | store store => exact ⟨h.ended, h.background⟩

theorem takeTurns (h : s.Awaits []) (turns : List Turn) : (s.takeTurns turns).Awaits [] := by
  induction turns generalizing s with
  | nil => exact h
  | cons turn turns ih =>
    apply ih
    exact h.turn turn

theorem tasks_eq_nil (h : s.Awaits []) (hanswers : s.answers = []) : s.state.tasks = [] := by
  rw [List.eq_nil_iff_forall_not_mem]
  intro task htask
  obtain ⟨answer, hanswer, _⟩ := h.ended task htask
  rw [hanswers] at hanswer
  cases hanswer

end Awaits

theorem ends_of_isBackground {answer : Action} (h : isBackground answer = true) {task : String}
    (hends : answer.ends task = true) :
    (task = State.generatingMail ∧ ∃ mail, answer = .mailGenerated mail) ∨
    (task = State.savingMail ∧ ∃ result, answer = .mailSaved result) := by
  cases answer with
  | mailGenerated mail => exact Or.inl ⟨by simpa [Action.ends] using hends, mail, rfl⟩
  | mailSaved result => exact Or.inr ⟨by simpa [Action.ends] using hends, result, rfl⟩
  | _ => cases h

def Uneventful (action : Action) : Prop :=
  ∀ (s : State) (now : Nat),
    (s.update now action).request = none ∧ (s.update now action).state.quitting = s.quitting

theorem uneventful_menuPublished (menu : Option Grid) : Uneventful (.menuPublished menu) := by
  intro s now
  obtain ⟨_, hshown⟩ := s.showMenu_eq menu
  refine ⟨rfl, ?_⟩
  change (s.showMenu menu).quitting = s.quitting
  rw [hshown]

theorem uneventful_of_isBackground {answer : Action} (h : isBackground answer = true) :
    Uneventful answer := by
  intro s now
  cases answer with
  | mailGenerated mail => exact ⟨rfl, rfl⟩
  | mailSaved result =>
    cases result with
    | ok path => exact ⟨rfl, rfl⟩
    | error cause => exact ⟨rfl, rfl⟩
  | _ => cases h

theorem isOver_draw (s : Session) : s.draw.isOver = s.isOver := by
  unfold isOver draw State.afterDrawing
  dsimp only
  split
  . split
    . rfl
    . rfl
  . rfl

theorem step_of_uneventful {s : Session} {signal : Signal} (hover : s.isOver = false)
    (hleft : (s.action? signal).2.isOver = false)
    (h : ∀ action, (s.action? signal).1 = some action → Uneventful action) :
    (s.step signal).answers = (s.action? signal).2.answers ∧ (s.step signal).isOver = false := by
  have hreacted : (s.reacted signal).answers = (s.action? signal).2.answers ∧
      (s.reacted signal).isOver = false := by
    unfold reacted
    cases haction : (s.action? signal).1 with
    | none => exact ⟨rfl, hleft⟩
    | some action =>
      obtain ⟨hrequest, hquitting⟩ := h action haction (s.action? signal).2.state
        (s.action? signal).2.now
      rw [Option.elim_some, feedLimit, feed_of_request_none 1 rfl hrequest]
      refine ⟨rfl, ?_⟩
      unfold isOver at hleft ⊢
      dsimp only
      rwa [hquitting]
  rw [step_eq, if_neg (by simp [hover]), if_neg (by simp [hreacted.2]), isOver_draw]
  exact hreacted

theorem step_published {s : Session} (hover : s.isOver = false) :
    (s.step .published).answers = s.answers ∧ (s.step .published).isOver = false := by
  have hleft : (s.action? .published).2.answers = s.answers ∧
      (s.action? .published).2.isOver = false := by
    unfold action?
    dsimp only
    split
    . exact ⟨rfl, hover⟩
    . exact ⟨rfl, hover⟩
  rw [← hleft.1]
  apply step_of_uneventful hover hleft.2
  unfold action?
  dsimp only
  split
  . rintro _ ⟨⟩
    exact uneventful_menuPublished _
  . nofun

theorem step_answered {s : Session} {answer : Action} {answers : List Action}
    (hover : s.isOver = false) (h : s.answers = answer :: answers)
    (hbackground : isBackground answer = true) :
    (s.step (.answered 0)).answers = answers ∧ (s.step (.answered 0)).isOver = false := by
  have haction : s.action? (.answered 0) = (some answer, { s with answers }) := by
    unfold action?
    rw [h]
    rfl
  have hstep := @step_of_uneventful s (.answered 0) hover
  rw [haction] at hstep
  apply hstep hover
  rintro _ ⟨⟩
  exact uneventful_of_isBackground hbackground

theorem settle_answers {s : Session} (hover : s.isOver = false)
    (hbackground : ∀ answer ∈ s.answers, isBackground answer = true) :
    s.settle.answers = [] := by
  have hdelivered : ∀ (answers : List Action) (t : Session), t.isOver = false →
      t.answers = answers → (∀ answer ∈ answers, isBackground answer = true) →
      (answers.foldl (fun t _ => t.step (.answered 0)) t).answers = [] := by
    intro answers
    induction answers with
    | nil => exact fun t _ h _ => h
    | cons answer answers ih =>
      intro t ht h hb
      obtain ⟨hrest, hover'⟩ := step_answered ht h (hb answer List.mem_cons_self)
      exact ih _ hover' hrest fun a ha => hb a (List.mem_cons_of_mem _ ha)
  obtain ⟨hanswers, hover'⟩ := step_published hover
  unfold settle
  dsimp only
  apply hdelivered _ _ hover' rfl
  rwa [hanswers]

theorem Awaits.settle {s : Session} (h : s.Awaits []) : s.settle.Awaits [] := by
  unfold Session.settle
  apply List.foldlRecOn (motive := fun t : Session => t.Awaits [])
  . exact h.step .published
  . intro t ht _ _
    exact ht.step (.answered 0)

/--
In a session that starts without a task, whatever comes next and in which order, the mail is shown
as being built only while such a mail is on its way, and as being saved only while a report of that
is on its way. So no task is shown once nothing is on its way, and a session that goes on comes to
this once everything has arrived.
-/
theorem takeTurns_tasks {s : Session} (htasks : s.state.tasks = []) (hanswers : s.answers = [])
    (turns : List Turn) :
    let t := s.takeTurns turns
    (State.generatingMail ∈ t.state.tasks → ∃ mail, .mailGenerated mail ∈ t.answers) ∧
    (State.savingMail ∈ t.state.tasks → ∃ result, .mailSaved result ∈ t.answers) ∧
    (t.answers = [] → t.state.tasks = []) ∧
    (t.isOver = false → t.settle.answers = [] ∧ t.settle.state.tasks = []) := by
  intro t
  have hstart : s.Awaits [] := ⟨by simp [htasks], by simp [hanswers]⟩
  have hawaits : t.Awaits [] := hstart.takeTurns turns
  have hended : ∀ task ∈ t.state.tasks, ∃ answer ∈ t.answers, answer.ends task = true := by
    simpa using hawaits.ended
  refine ⟨?_, ?_, hawaits.tasks_eq_nil, ?_⟩
  . intro htask
    obtain ⟨answer, hanswer, hends⟩ := hended _ htask
    obtain ⟨_, mail, rfl⟩ | ⟨hsaving, _⟩ :=
      ends_of_isBackground (hawaits.background answer hanswer) hends
    . exact ⟨mail, hanswer⟩
    . exact absurd hsaving (by decide)
  . intro htask
    obtain ⟨answer, hanswer, hends⟩ := hended _ htask
    obtain ⟨hgenerating, _⟩ | ⟨_, result, rfl⟩ :=
      ends_of_isBackground (hawaits.background answer hanswer) hends
    . exact absurd hgenerating (by decide)
    . exact ⟨result, hanswer⟩
  . intro hover
    have hsettled := settle_answers hover hawaits.background
    exact ⟨hsettled, hawaits.settle.tasks_eq_nil hsettled⟩

theorem takeTurns_tasks_overlapping :
    let store : Store Disk := .new (.ofFiles .empty .memory) ⟨[]⟩ 1
    let s : Session :=
      ⟨⟨.standard, "", ⟨[]⟩, ⟨[]⟩, store⟩, .initial, 0, [], .initial, 80, 24, 0, false, none⟩
    let turns : List Turn := [.action .generateMail, .store store.load, .action .generateMail,
      .action .generateMail, .happening (.signal (.answered 1)), .action .saveMail]
    (s.takeTurns turns).state.tasks = [State.savingMail] ∧
    (s.takeTurns turns).answers.length = 2 ∧
    (∃ result, .mailSaved result ∈ (s.takeTurns turns).answers) ∧
    (s.takeTurns turns).settle.state.tasks = [] := by
  intro store s turns
  have htasks : (s.takeTurns turns).state.tasks = [State.savingMail] := by decide +kernel
  have hlength : (s.takeTurns turns).answers.length = 2 := by decide +kernel
  have hover : (s.takeTurns turns).isOver = false := by decide +kernel
  obtain ⟨_, hsaving, _, hsettled⟩ := takeTurns_tasks (s := s) rfl rfl turns
  refine ⟨htasks, hlength, hsaving ?_, (hsettled hover).2⟩
  rw [htasks]
  exact List.mem_singleton_self _

end Session
end WeekMenu

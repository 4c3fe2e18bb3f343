import WeekMenu.Proofs.State.CommandBar
import WeekMenu.Proofs.Text.Blank
import WeekMenu.Session

/-!
This module contains the proof that a command that is typed into the command bar, key by key, does
what the same command does when it is executed at once.
-/

namespace WeekMenu

theorem Command.parse?_trim (text : String) : parse? (Text.trim text) = parse? text := by
  unfold parse? ofChars? Text.trim
  rw [String.toList_ofList, Text.trimChars_trimChars]

theorem Planner.execute_trim (p : Planner) (text : String) :
    p.execute (Text.trim text) = p.execute text := by
  unfold Planner.execute Store.execute
  rw [Command.parse?_trim]

theorem State.barAction_char (c : Char) :
    barAction (.plain (.char c)) = .textInput (.plain (.char c)) := by
  unfold barAction Key.plain
  dsimp only
  split
  all_goals simp_all [Modifiers.none]

namespace Session

def press (s : Session) (key : Key) : Session :=
  let (action, s) := s.action? (.event (.key key))
  action.elim s (s.feed feedLimit)

def request? (s : Session) (key : Key) : Option Request :=
  (s.state.action? s.width s.height (.key key)).bind fun action =>
    (s.state.update s.now action).request

def requests (s : Session) : List Key → List Request
  | [] => []
  | key :: keys => (s.request? key).toList ++ (s.press key).requests keys

def typedKeys (text : String) : List Key :=
  .plain (.char ':') :: text.toList.map (fun c => .plain (.char c)) ++ [.plain .enter]

theorem step_key {s : Session} (h : s.isOver = false) (key : Key) :
    s.step (.event (.key key)) =
      if (s.press key).isOver then s.press key else (s.press key).draw := by
  unfold step
  rw [if_neg (by simp [h])]
  rfl

theorem step_eq_draw {s done : Session} {key : Key} {shown : State} (h : s.isOver = false)
    (hdone : done.isOver = false) (hpress : s.press key = { done with shown }) :
    s.step (.event (.key key)) = done.draw := by
  rw [step_key h, hpress]
  exact if_neg (Bool.eq_false_iff.mp hdone)

theorem press_of_action? {s : Session} {key : Key} {action : Action}
    (h : s.state.action? s.width s.height (.key key) = some action) :
    s.press key = s.feed feedLimit action := by
  unfold press Session.action? resized
  dsimp only
  rw [h]
  rfl

theorem request?_of_action? {s : Session} {key : Key} {action : Action}
    (h : s.state.action? s.width s.height (.key key) = some action) :
    s.request? key = (s.state.update s.now action).request := by
  unfold request?
  rw [h]
  rfl

theorem feed_of_request_none {s : Session} {action : Action} {reaction : Reaction} (limit : Nat)
    (h : s.state.update s.now action = reaction) (hr : reaction.request = none) :
    s.feed (limit + 1) action =
      { s with
        state := reaction.state
        planner := s.planner.keepHistory s.state.historyPath reaction.history } := by
  unfold feed react
  rw [h]
  dsimp only
  rw [hr]

theorem feed_of_request_execute {s : Session} {action : Action} {state : State} {text : String}
    (limit : Nat) (h : s.state.update s.now action = ⟨state, some (.execute text), none⟩) :
    s.feed (limit + 2) action =
      { s with
        state := (state.commandDone s.now text (s.planner.execute text).1).state
        planner := (s.planner.execute text).2.keepHistory state.historyPath
          (state.commandDone s.now text (s.planner.execute text).1).history } := by
  have hreact : s.react action = ({ s with state, planner := (s.planner.execute text).2 },
      some (.commandExecuted text (s.planner.execute text).1)) := by
    unfold react
    rw [h]
    dsimp only
    rw [Planner.keepHistory_none]
    rfl
  unfold feed
  rw [hreact]
  exact feed_of_request_none limit rfl (State.commandDone_request _ _ _ _)

structure Typing (s₀ : Session) (typed : List Char) (s : Session) : Prop where
  session : ∃ bar shown,
    s = { s₀ with state := { s₀.state with mode := .commandBar, bar := some bar }, shown } ∧
    bar.input.AtEnd typed

theorem action?_colon {s : Session} (hmode : s.state.mode = .normal)
    (hcolon : s.state.keymap.action? (.plain (.char ':')) = some (.enterCommandBar none)) :
    s.state.action? s.width s.height (.key (.plain (.char ':'))) =
      some (.enterCommandBar none) := by
  have hnormal : s.state.normalAction? (.plain (.char ':')) = some (.enterCommandBar none) := by
    unfold State.normalAction?
    rw [if_neg (by simp [Key.plain]), hcolon]
  unfold State.action? State.keyAction?
  rw [hmode]
  exact hnormal

namespace Typing

variable {s₀ s : Session} {typed : List Char}

theorem start (s : Session) (hmode : s.state.mode = .normal)
    (hcolon : s.state.keymap.action? (.plain (.char ':')) = some (.enterCommandBar none)) :
    Typing s [] (s.press (.plain (.char ':'))) := by
  have hupdate : s.state.update s.now (.enterCommandBar none) =
      ⟨s.state.openBar "", none, none⟩ := rfl
  rw [press_of_action? (action?_colon hmode hcolon), feedLimit,
    feed_of_request_none 1 hupdate rfl, Planner.keepHistory_none]
  exact ⟨.opened "" (s.state.suggest ""), s.shown, rfl, TextInput.atEnd_ofText ""⟩

theorem action?_eq (h : Typing s₀ typed s) (key : Key) (hpress : key.motion ≠ .release) :
    s.state.action? s.width s.height (.key key) = some (State.barAction key) := by
  obtain ⟨bar, shown, rfl, _⟩ := h.session
  unfold State.action?
  dsimp only
  rw [if_neg hpress]
  rfl

theorem action?_char (h : Typing s₀ typed s) (c : Char) :
    s.state.action? s.width s.height (.key (.plain (.char c))) =
      some (.textInput (.plain (.char c))) := by
  rw [h.action?_eq _ (by simp [Key.plain]), State.barAction_char]

theorem action?_enter (h : Typing s₀ typed s) :
    s.state.action? s.width s.height (.key (.plain .enter)) = some .submitCommand :=
  h.action?_eq (.plain .enter) (by simp [Key.plain])

theorem press (h : Typing s₀ typed s) {c : Char} (hfeed : c ≠ '\n') (hreturn : c ≠ '\r') :
    Typing s₀ (typed ++ [c]) (s.press (.plain (.char c))) := by
  have hupdate : s.state.update s.now (.textInput (.plain (.char c))) =
      ⟨s.state.typeKey (.plain (.char c)), none, none⟩ := rfl
  rw [press_of_action? (h.action?_char c), feedLimit, feed_of_request_none 1 hupdate rfl,
    Planner.keepHistory_none]
  obtain ⟨bar, shown, rfl, hbar⟩ := h.session
  refine ⟨⟨bar.input.input (.plain (.char c)), _, none, none⟩, shown, rfl, ?_⟩
  rw [TextInput.input_char bar.input hfeed hreturn]
  exact hbar.insert c

theorem draw (h : Typing s₀ typed s) : Typing s₀ typed s.draw := by
  obtain ⟨bar, shown, rfl, hbar⟩ := h.session
  unfold Session.draw State.afterDrawing
  dsimp only
  split
  . next box hbox =>
    split
    . exact ⟨bar, _, rfl, hbar⟩
    . exact ⟨_, _, rfl, hbar.scrolled _ _⟩
  . exact ⟨bar, _, rfl, hbar⟩

theorem submit (h : Typing s₀ typed s) :
    s.state.update s.now .submitCommand =
      ⟨{ s₀.state with mode := .normal, bar := none },
        if Text.trim (String.ofList typed) = "" then none
          else some (.execute (Text.trim (String.ofList typed))),
        none⟩ := by
  obtain ⟨bar, shown, rfl, hbar⟩ := h.session
  rw [← hbar.text]
  exact State.update_submitCommand rfl _

end Typing

def submitted (s : Session) (text : String) : Session :=
  if Text.trim text = "" then
    s
  else
    let (outcome, planner) := s.planner.execute text
    let done := s.state.commandDone s.now (Text.trim text) outcome
    { s with
      state := done.state
      planner := planner.keepHistory s.state.historyPath done.history }

theorem isOver_submitted (s : Session) (text : String) :
    (s.submitted text).isOver = s.isOver := by
  unfold submitted isOver
  split
  . rfl
  . obtain ⟨_, _, hquitting⟩ :=
      s.state.commandDone_keeps s.now (Text.trim text) (s.planner.execute text).1
    dsimp only
    rw [hquitting]

namespace Typing

variable {s₀ s : Session} {typed : List Char}

theorem press_enter (h : Typing s₀ typed s) :
    s.press (.plain .enter) =
      { { s₀ with state := { s₀.state with mode := .normal, bar := none } }.submitted
          (String.ofList typed) with
        shown := s.shown } := by
  have hsubmit := h.submit
  rw [press_of_action? h.action?_enter, feedLimit]
  obtain ⟨bar, shown, rfl, _⟩ := h.session
  unfold submitted
  split
  . next hblank =>
    rw [if_pos hblank] at hsubmit
    rw [feed_of_request_none 1 hsubmit rfl, Planner.keepHistory_none]
  . next hblank =>
    rw [if_neg hblank] at hsubmit
    rw [feed_of_request_execute 0 hsubmit, Planner.execute_trim]

theorem isOver_eq (h : Typing s₀ typed s) : s.isOver = s₀.isOver := by
  obtain ⟨bar, shown, rfl, _⟩ := h.session
  rfl

theorem foldl (turn : Session → Key → Session)
    (hturn : ∀ {typed s c}, Typing s₀ typed s → c ≠ '\n' → c ≠ '\r' →
      Typing s₀ (typed ++ [c]) (turn s (.plain (.char c))))
    (h : Typing s₀ typed s) {cs : List Char} (hfeed : '\n' ∉ cs) (hreturn : '\r' ∉ cs) :
    Typing s₀ (typed ++ cs) ((cs.map fun c => .plain (.char c)).foldl turn s) := by
  induction cs generalizing typed s with
  | nil =>
    rw [List.append_nil]
    exact h
  | cons c cs ih =>
    rw [List.mem_cons, not_or] at hfeed hreturn
    rw [List.append_cons]
    exact ih (hturn h (Ne.symm hfeed.1) (Ne.symm hreturn.1)) hfeed.2 hreturn.2

theorem step_of_press {key : Key} (h : Typing s₀ typed (s.press key)) (hover : s.isOver = false)
    (hover₀ : s₀.isOver = false) : Typing s₀ typed (s.step (.event (.key key))) := by
  rw [step_key hover, if_neg (by simp [h.isOver_eq, hover₀])]
  exact h.draw

theorem step (h : Typing s₀ typed s) (hover : s₀.isOver = false) {c : Char} (hfeed : c ≠ '\n')
    (hreturn : c ≠ '\r') :
    Typing s₀ (typed ++ [c]) (s.step (.event (.key (.plain (.char c))))) :=
  (h.press hfeed hreturn).step_of_press (h.isOver_eq.trans hover) hover

theorem request?_char (h : Typing s₀ typed s) (c : Char) :
    s.request? (.plain (.char c)) = none := by
  rw [request?_of_action? (h.action?_char c)]
  rfl

theorem request?_enter (h : Typing s₀ typed s) :
    s.request? (.plain .enter) =
      if Text.trim (String.ofList typed) = "" then none
      else some (.execute (Text.trim (String.ofList typed))) := by
  rw [request?_of_action? h.action?_enter, h.submit]

theorem requests_chars (h : Typing s₀ typed s) {cs : List Char} (hfeed : '\n' ∉ cs)
    (hreturn : '\r' ∉ cs) : s.requests (cs.map fun c => .plain (.char c)) = [] := by
  induction cs generalizing typed s with
  | nil => rfl
  | cons c cs ih =>
    rw [List.mem_cons, not_or] at hfeed hreturn
    rw [List.map_cons, requests, h.request?_char,
      ih (h.press (Ne.symm hfeed.1) (Ne.symm hreturn.1)) hfeed.2 hreturn.2]
    rfl

end Typing

theorem requests_append (s : Session) (keys others : List Key) :
    s.requests (keys ++ others) = s.requests keys ++ (keys.foldl press s).requests others := by
  induction keys generalizing s with
  | nil => rfl
  | cons key keys ih =>
    rw [List.cons_append, requests, requests, ih, List.append_assoc]
    rfl

section Typed

variable {s : Session} {text : String} (hmode : s.state.mode = .normal)
variable (hcolon : s.state.keymap.action? (.plain (.char ':')) = some (.enterCommandBar none))
variable (hfeed : '\n' ∉ text.toList) (hreturn : '\r' ∉ text.toList)

include hmode hcolon hfeed hreturn

theorem foldl_press_typedKeys :
    let typed := (typedKeys text).foldl press s
    let done := { s with state := { s.state with bar := none } }.submitted text
    typed.state = done.state ∧ typed.planner = done.planner ∧ typed.draw = done.draw := by
  have h := (Typing.start s hmode hcolon).foldl press (fun h => h.press) hfeed hreturn
  have henter := h.press_enter
  rw [List.nil_append, String.ofList_toList, ← hmode] at henter
  unfold typedKeys
  rw [List.foldl_append, List.foldl_cons, List.foldl_cons, List.foldl_nil, henter]
  generalize submitted _ text = done
  exact ⟨rfl, rfl, rfl⟩

theorem requests_typedKeys :
    s.requests (typedKeys text) =
      if Text.trim text = "" then [] else [.execute (Text.trim text)] := by
  have hstart := Typing.start s hmode hcolon
  have h := hstart.foldl press (fun h => h.press) hfeed hreturn
  have hcolon : s.request? (.plain (.char ':')) = none := by
    rw [request?_of_action? (action?_colon hmode hcolon)]
    rfl
  unfold typedKeys
  rw [requests_append, requests, hcolon, hstart.requests_chars hfeed hreturn, List.append_nil,
    List.foldl_cons, requests, h.request?_enter, List.nil_append, String.ofList_toList]
  split
  . rfl
  . rfl

theorem foldl_step_typedKeys (hover : s.isOver = false) :
    (typedKeys text).foldl (fun s key => s.step (.event (.key key))) s =
      ({ s with state := { s.state with bar := none } }.submitted text).draw := by
  have hdone := (isOver_submitted { s with state := { s.state with bar := none } } text).trans hover
  have hstart := (Typing.start s hmode hcolon).step_of_press hover hover
  have h := hstart.foldl (fun s key => s.step (.event (.key key))) (fun h => h.step hover)
    hfeed hreturn
  have henter := h.press_enter
  rw [List.nil_append, String.ofList_toList, ← hmode] at henter
  unfold typedKeys
  rw [List.foldl_append, List.foldl_cons]
  exact step_eq_draw (h.isOver_eq.trans hover) hdone henter

end Typed

theorem typed_eq_execute (s : Session) (text : String) (hmode : s.state.mode = .normal)
    (hcolon : s.state.keymap.action? (.plain (.char ':')) = some (.enterCommandBar none))
    (hfeed : '\n' ∉ text.toList) (hreturn : '\r' ∉ text.toList) :
    let typed := (typedKeys text).foldl press s
    let outcome := (s.planner.execute text).1
    let planner := (s.planner.execute text).2
    let closed := { s.state with bar := none }
    let done := closed.update s.now (.commandExecuted (Text.trim text) outcome)
    typed.state.mode = .normal ∧ typed.state.bar = none ∧
    (s.isOver = false →
      (typedKeys text).foldl (fun s key => s.step (.event (.key key))) s = typed.draw) ∧
    if Text.trim text = "" then
      s.requests (typedKeys text) = [] ∧ typed.state = closed ∧ typed.planner = s.planner
    else
      s.requests (typedKeys text) = [.execute (Text.trim text)] ∧
      typed.state = done.state ∧
      typed.planner = planner.keepHistory s.state.historyPath done.history ∧
      (∀ menu, (Storage.get menuKey planner.store.disk).1 = .ok (some menu) →
        (Storage.get menuKey typed.planner.store.disk).1 = .ok (some menu) ∨
        ∃ history ∈ s.state.historyPath, ∃ location ∈ planner.store.location,
          typed.planner.store.disk.files.place history =
            typed.planner.store.disk.files.place location) ∧
      (outcome.success = true → typed.state.recents.head? = some (Text.trim text)) := by
  intro typed outcome planner closed done
  obtain ⟨hstate, hplanner, hdraw⟩ := foldl_press_typedKeys hmode hcolon hfeed hreturn
  have hstep := foldl_step_typedKeys hmode hcolon hfeed hreturn
  have hrequests := requests_typedKeys hmode hcolon hfeed hreturn
  by_cases hblank : Text.trim text = ""
  . rw [submitted, if_pos hblank] at hstate hplanner
    rw [if_pos hblank] at hrequests ⊢
    have hmode : typed.state.mode = .normal := (congrArg State.mode hstate).trans hmode
    have hbar : typed.state.bar = none := congrArg State.bar hstate
    exact ⟨hmode, hbar, fun hover => (hstep hover).trans hdraw.symm, hrequests, hstate, hplanner⟩
  . rw [submitted, if_neg hblank] at hstate hplanner
    rw [if_neg hblank] at hrequests ⊢
    have hdone : typed.state = done.state := hstate
    have hkept : typed.planner = planner.keepHistory s.state.historyPath done.history := hplanner
    obtain ⟨hmode', hbar', _⟩ := State.commandDone_keeps closed s.now (Text.trim text) outcome
    have hmode : typed.state.mode = .normal := by
      rw [hdone]
      exact hmode'.trans hmode
    have hbar : typed.state.bar = none := by
      rw [hdone]
      exact hbar'
    refine ⟨hmode, hbar, fun hover => (hstep hover).trans hdraw.symm, hrequests, hdone, hkept,
      ?_, ?_⟩
    . intro menu hmenu
      rw [hkept]
      exact Planner.get_keepHistory hmenu s.state.historyPath done.history
    . intro hsuccess
      rw [hdone, ← Text.trim_trim text]
      exact State.head?_recents_commandDone closed s.now (by rwa [Text.trim_trim]) hsuccess

theorem typed_eq_execute_soup :
    let store : Store Disk := .new (.ofFiles .empty (.folder "data")) ⟨[]⟩ 1
    let state : State := .new .standard ⟨[]⟩ (some "history.toml") ["gen"]
    let s : Session := ⟨⟨.standard, "", ⟨[]⟩, ⟨[]⟩, store.load⟩, state, 1, [], state, 80, 24, 0,
      true, none⟩
    let typed := (typedKeys " mon-u-t soup ").foldl press s
    s.state.mode = .normal ∧
    s.state.keymap.action? (.plain (.char ':')) = some (.enterCommandBar none) ∧
    s.requests (typedKeys " mon-u-t soup ") = [.execute "mon-u-t soup"] ∧
    (Storage.get menuKey typed.planner.store.disk).1 = .ok (some "[[\"soup\",\"\"]]") ∧
    typed.state.recents.head? = some "mon-u-t soup" := by
  intro store state s typed
  have hmode : s.state.mode = .normal := rfl
  have hcolon : s.state.keymap.action? (.plain (.char ':')) = some (.enterCommandBar none) := by
    change (KeyMap.ofConfig .standard).action? (.plain (.char ':')) = some (.enterCommandBar none)
    cbv
  have htrim : Text.trim " mon-u-t soup " = "mon-u-t soup" := by decide +kernel
  have hsuccess : (s.planner.execute " mon-u-t soup ").1.success = true := by decide +kernel
  have hmenu : (Storage.get menuKey (s.planner.execute " mon-u-t soup ").2.store.disk).1 =
      .ok (some "[[\"soup\",\"\"]]") := by
    decide +kernel
  have hlocation : (s.planner.execute " mon-u-t soup ").2.store.location =
      some "data/weeklyMenu.json" := by
    decide +kernel
  have hapart : typed.planner.store.disk.files.place "history.toml" ≠
      typed.planner.store.disk.files.place "data/weeklyMenu.json" := by
    decide +kernel
  have hpath : s.state.historyPath = some "history.toml" := rfl
  clear_value s
  obtain ⟨_, _, _, htyped⟩ :=
    typed_eq_execute s " mon-u-t soup " hmode hcolon (by decide) (by decide)
  rw [htrim, if_neg (by decide)] at htyped
  obtain ⟨hrequests, _, _, hsaved, hhead⟩ := htyped
  refine ⟨hmode, hcolon, hrequests, ?_, hhead hsuccess⟩
  rcases hsaved "[[\"soup\",\"\"]]" hmenu with hget | ⟨history, hhistory, location, hloc, hplace⟩
  . exact hget
  . rw [hpath] at hhistory
    rw [hlocation] at hloc
    cases hhistory
    cases hloc
    exact absurd hplace hapart

end Session
end WeekMenu

import WeekMenu.Planner
import WeekMenu.Screen.Draw
import WeekMenu.State.Event
import WeekMenu.State.Update

/-!
This module contains a session: the loop that shows the state, waits for something to happen and
updates the state. What happens comes in any order: reports of the terminal, publications of the
store, changes of the saved menu by others, and the answers of work that goes on in the background.
-/

namespace WeekMenu

inductive Signal where
  | tick
  | event (event : Event)
  | closed
  | broken (message : String)
  | published
  | answered (index : Nat)
  | fileChanged

/--
A session. `seen` counts the publications that have reached the state, `answers` are those that are
on their way to it, and `shown` is the state as it was drawn last. `width` and `height` are the size
of the terminal.
-/
structure Session where
  planner : Planner
  state : State
  seen : Nat
  answers : List Action
  shown : State
  width : Nat
  height : Nat
  now : Nat
  watching : Bool
  failure : Option String

namespace Session

def isOver (s : Session) : Bool :=
  s.state.quitting || s.failure.isSome

def draw (s : Session) : Session :=
  { s with state := s.state.afterDrawing s.width s.height, shown := s.state }

def watch (p : Planner) : Planner × Bool :=
  match p.store.location with
  | none => (p, false)
  | some _ =>
    match p.store.disk.files.createDirectories p.dataDirectory with
    | .ok files => (p.withFiles files, true)
    | .error _ => (p, false)

def start (p : Planner) (state : State) (width height : Nat) : Session :=
  let seen := p.store.published.count
  let (p, watching) := watch p
  { planner := p.load
    state, seen, width, height, watching
    answers := []
    shown := state
    now := 0
    failure := none : Session }.draw

def isBackground : Action → Bool
  | .mailGenerated _ => true
  | .mailSaved _ => true
  | _ => false

def perform (s : Session) (request : Request) : Session × Option Action :=
  let (answer, planner) := s.planner.serve request
  let s := { s with planner }
  match answer with
  | none => (s, none)
  | some action =>
    if isBackground action then ({ s with answers := s.answers ++ [action] }, none)
    else (s, some action)

def react (s : Session) (action : Action) : Session × Option Action :=
  let reaction := s.state.update s.now action
  let planner := s.planner.keepHistory s.state.historyPath reaction.history
  let s := { s with state := reaction.state, planner }
  match reaction.request with
  | none => (s, none)
  | some request => s.perform request

def feed (limit : Nat) (s : Session) (action : Action) : Session :=
  match limit with
  | 0 => s
  | limit + 1 =>
    match s.react action with
    | (s, none) => s
    | (s, some action) => feed limit s action

-- an answer asks for nothing, so there is no third action
def feedLimit : Nat := 2

def resized (s : Session) : Event → Session
  | .resize width height => { s with width, height }
  | _ => s

def action? (s : Session) : Signal → Option Action × Session
  | .tick => (some .tick, s)
  | .event event =>
    let s := s.resized event
    (s.state.action? s.width s.height event, s)
  | .closed => (some .quit, s)
  | .broken message => (none, { s with failure := some message })
  | .published =>
    let publication := s.planner.store.published
    if s.seen < publication.count then
      (some (.menuPublished publication.grid), { s with seen := publication.count })
    else
      (none, s)
  | .answered index => (s.answers[index]?, { s with answers := s.answers.eraseIdx index })
  | .fileChanged => (some .externalChange, s)

def step (s : Session) (signal : Signal) : Session :=
  if s.isOver then
    s
  else
    let (action, s) := s.action? signal
    let s := action.elim s (feed feedLimit s)
    if s.isOver then s else s.draw

def settle (s : Session) : Session :=
  let s := s.step .published
  s.answers.foldl (fun s _ => s.step (.answered 0)) s

def screen (s : Session) (clock : String) : Canvas :=
  Screen.draw s.shown clock s.width s.height

end Session
end WeekMenu

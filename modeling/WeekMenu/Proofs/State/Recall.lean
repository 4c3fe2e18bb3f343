import Mathlib.Data.List.Induction
import WeekMenu.Proofs.State.TextInput
import WeekMenu.State.Update

/-!
This module contains the recall of remembered commands in the command bar. Going back and forth is a
walk along the remembered commands. Where the walk comes back from the latest command the bar is
empty, but the bar still takes this for the latest command, which is then skipped on the way back.
-/

namespace WeekMenu

inductive Recall where
  | prev
  | next
  deriving DecidableEq, Repr

def Recall.action : Recall → Action
  | .prev => .historyPrev
  | .next => .historyNext

namespace Recall

/--
How far a walk has come: it has not left the text with which the bar was opened, it is at a
remembered command, or it has come back from the latest one.
-/
inductive Position where
  | opened
  | entry (index : Nat)
  | back
  deriving DecidableEq, Repr

namespace Position

def text (recents : List String) (opened : String) : Position → String
  | .opened => opened
  | .entry i => recents.getD i ""
  | .back => ""

def walk (count : Nat) : Position → Recall → Position
  | .opened, .prev => if 0 < count then .entry 0 else .opened
  | .opened, .next => .opened
  | .entry i, .prev => if i + 1 < count then .entry (i + 1) else .entry i
  | .entry 0, .next => .back
  | .entry (i + 1), .next => .entry i
  | .back, .prev => .entry 0
  | .back, .next => .back

/--
A move as the bar makes it. It differs from a walk in that the way back leads from the empty text to
the command before the latest one.
-/
def move (count : Nat) : Position → Recall → Position
  | .back, .prev => if 1 < count then .entry 1 else .back
  | p, m => p.walk count m

def index? : Position → Option Nat
  | .opened => none
  | .entry i => some i
  | .back => some 0

theorem move_eq_walk_iff (count : Nat) (p : Position) (m : Recall) :
    p.move count m = p.walk count m ↔ ¬(p = .back ∧ m = .prev) := by
  cases p <;> cases m <;> simp [move, walk]
  split <;> simp

theorem foldl_move_eq_foldl_walk_iff (count : Nat) (p : Position) (moves : List Recall) :
    (∀ before, before <+: moves → before.foldl (move count) p = before.foldl (walk count) p)
      ↔
    ∀ before, before ++ [.prev] <+: moves → before.foldl (walk count) p ≠ .back := by
  constructor
  . intro h before hbefore hback
    have hsame := h before ((List.prefix_append _ _).trans hbefore)
    have hdiffers := h _ hbefore
    simp only [List.foldl_append, List.foldl_cons, List.foldl_nil] at hdiffers
    rw [hsame, move_eq_walk_iff] at hdiffers
    exact hdiffers ⟨hback, rfl⟩
  . intro h before
    induction before using List.reverseRecOn with
    | nil => exact fun _ => rfl
    | append_singleton before m ih =>
      intro hbefore
      simp only [List.foldl_append, List.foldl_cons, List.foldl_nil]
      rw [ih ((List.prefix_append _ _).trans hbefore), move_eq_walk_iff]
      rintro ⟨hback, rfl⟩
      exact h before hbefore hback

end Position
end Recall

namespace State

def browse (s : State) (now : Nat) (moves : List Recall) : State :=
  moves.foldl (fun s m => (s.update now m.action).state) s

structure StandsAt (recents : List String) (opened : String) (p : Recall.Position) (s : State) :
    Prop where
  kept : s.recents = recents
  lt_length : ∀ i, p = .entry i → i < recents.length
  bar : ∃ b, s.bar = some b ∧ b.text = p.text recents opened ∧ b.historyIndex = p.index?

namespace StandsAt

variable {recents : List String} {opened : String} {p : Recall.Position} {s : State}

theorem openBar (s : State) (text : String) :
    StandsAt s.recents text .opened (s.openBar text) where
  kept := rfl
  lt_length := nofun
  bar := ⟨_, rfl, TextInput.text_ofText text, rfl⟩

theorem index? (h : StandsAt recents opened p s) : s.bar.bind (·.historyIndex) = p.index? := by
  obtain ⟨b, hb, _, hindex⟩ := h.bar
  rw [hb, ← hindex]
  rfl

theorem replaceText (h : StandsAt recents opened p s) (text : String) :
    ∃ b, (s.replaceText text).bar = some b ∧ b.text = text ∧ b.historyIndex = p.index? := by
  obtain ⟨b, hb, _, hindex⟩ := h.bar
  unfold State.replaceText
  rw [hb]
  exact ⟨_, rfl, TextInput.text_ofText text, hindex⟩

theorem showRecent (h : StandsAt recents opened p s) (i : Nat) :
    StandsAt recents opened (if i < recents.length then .entry i else p) (s.showRecent i) := by
  unfold State.showRecent
  rw [h.kept]
  split
  . next hi =>
    rw [List.getElem?_eq_getElem hi]
    refine ⟨h.kept, ?_, ?_⟩
    . rintro _ ⟨⟩
      exact hi
    . obtain ⟨b, hb, htext, _⟩ := h.replaceText recents[i]
      dsimp only
      rw [hb, Recall.Position.text, List.getD_eq_getElem?_getD, List.getElem?_eq_getElem hi]
      exact ⟨_, rfl, htext, rfl⟩
  . next hi =>
    rw [List.getElem?_eq_none (Nat.le_of_not_lt hi)]
    exact h

theorem empty (h : StandsAt recents opened p s) (hp : p.index? = some 0) :
    StandsAt recents opened .back (s.replaceText "") where
  kept := h.kept
  lt_length := nofun
  bar := by
    obtain ⟨b, hb, htext, hindex⟩ := h.replaceText ""
    exact ⟨b, hb, htext, hindex.trans hp⟩

theorem move (h : StandsAt recents opened p s) (now : Nat) (m : Recall) :
    StandsAt recents opened (p.move recents.length m) (s.update now m.action).state := by
  cases m with
  | prev =>
    change StandsAt recents opened _ s.historyPrev
    unfold State.historyPrev
    rw [h.index?]
    cases p with
    | opened => exact h.showRecent 0
    | entry i => exact h.showRecent (i + 1)
    | back => exact h.showRecent 1
  | next =>
    change StandsAt recents opened _ s.historyNext
    unfold State.historyNext
    rw [h.index?]
    cases p with
    | opened => exact h
    | back => exact h.empty rfl
    | entry i =>
      cases i with
      | zero => exact h.empty rfl
      | succ i =>
        have hi : i < recents.length := Nat.lt_of_succ_lt (h.lt_length _ rfl)
        have hshown := h.showRecent i
        rwa [if_pos hi] at hshown

theorem browse (h : StandsAt recents opened p s) (now : Nat) (moves : List Recall) :
    StandsAt recents opened (moves.foldl (Recall.Position.move recents.length) p)
      (s.browse now moves) := by
  induction moves generalizing p s with
  | nil => exact h
  | cons m moves ih => exact ih (h.move now m)

end StandsAt

theorem recall_text (s : State) (opened : String) (now : Nat) (moves : List Recall) :
    let s' := (s.update now (.enterCommandBar (some opened))).state
    let move := Recall.Position.move s.recents.length
    let walk := Recall.Position.walk s.recents.length
    (s'.browse now moves).bar.map (·.text) =
      some ((moves.foldl move .opened).text s.recents opened) ∧
    ((∀ before, before <+: moves → before.foldl move .opened = before.foldl walk .opened)
      ↔
    ∀ before, before ++ [.prev] <+: moves → before.foldl walk .opened ≠ .back) := by
  intro s' move walk
  refine ⟨?_, Recall.Position.foldl_move_eq_foldl_walk_iff _ _ moves⟩
  obtain ⟨b, hb, htext, _⟩ := ((StandsAt.openBar s opened).browse now moves).bar
  change ((s.openBar opened).browse now moves).bar.map (·.text) = _
  rw [hb, Option.map_some, htext]

theorem recall_skips_latest :
    let s : State := { initial with recents := ["one", "two"] }
    let s' := (s.update 0 (.enterCommandBar none)).state
    let moves : List Recall := [.prev, .next, .prev]
    (s'.browse 0 moves).bar.map (·.text) = some "two" ∧
    (moves.foldl (Recall.Position.walk 2) .opened).text s.recents "" = "one" := by
  decide +kernel

end State
end WeekMenu

import Mathlib.Data.List.Induction
import WeekMenu.Proofs.Session.History

/-!
This module contains the scrolling of a mail. The last line to which it can be scrolled is kept with
sixteen binary digits. All lines that such a number counts can be reached, unless the mail has
further lines: then the last line wraps around.
-/

namespace WeekMenu

inductive Scroll where
  | up (lines : UInt16)
  | down (lines : UInt16)
  deriving DecidableEq, Repr

namespace Scroll

def action : Scroll → Action
  | .up n => .scrollMailUp n.toNat
  | .down n => .scrollMailDown n.toNat

def move (last line : Nat) : Scroll → Nat
  | .up n => line - n.toNat
  | .down n => min (line + n.toNat) last

def lineAfter (last : Nat) (moves : List Scroll) : Nat :=
  moves.foldl (move last) 0

theorem lineAfter_concat (last : Nat) (moves : List Scroll) (m : Scroll) :
    lineAfter last (moves ++ [m]) = move last (lineAfter last moves) m := by
  unfold lineAfter
  rw [List.foldl_append, List.foldl_cons, List.foldl_nil]

theorem lineAfter_le (last : Nat) (moves : List Scroll) : lineAfter last moves ≤ last := by
  induction moves using List.reverseRecOn with
  | nil => exact Nat.zero_le last
  | append_singleton moves m ih =>
    rw [lineAfter_concat]
    cases m with
    | up n => exact Nat.le_trans (Nat.sub_le _ _) ih
    | down n => exact Nat.min_le_right _ _

theorem lineAfter_le_down (last : Nat) (moves : List Scroll) (n : UInt16) :
    lineAfter last moves ≤ lineAfter last (moves ++ [.down n]) := by
  rw [lineAfter_concat]
  exact Nat.le_min.mpr ⟨Nat.le_add_right _ _, lineAfter_le last moves⟩

theorem lineAfter_down (last : Nat) {line : Nat} (h : line < 65536) :
    lineAfter last [.down (.ofNat line)] = min line last := by
  have hline : (UInt16.ofNat line).toNat = line := UInt16.toNat_ofNat_of_lt h
  unfold lineAfter
  rw [List.foldl_cons, List.foldl_nil, move, hline, Nat.zero_add]

theorem exists_lineAfter_iff {last : Nat} (h : last < 65536) {line : Nat} :
    (∃ moves, lineAfter last moves = line) ↔ line ≤ last := by
  constructor
  . rintro ⟨moves, rfl⟩
    exact lineAfter_le last moves
  . intro hline
    refine ⟨[.down (.ofNat line)], ?_⟩
    rw [lineAfter_down last (Nat.lt_of_le_of_lt hline h), Nat.min_eq_left hline]

theorem lineAfter_eq_iff {last last' : Nat} (h : last < 65536) (h' : last' < 65536) :
    (∀ moves, lineAfter last moves = lineAfter last' moves) ↔ last = last' := by
  constructor
  . intro hsame
    have hend := hsame [.down (.ofNat 65535)]
    rw [lineAfter_down last (by decide), lineAfter_down last' (by decide)] at hend
    omega
  . rintro rfl _
    rfl

end Scroll

namespace MailPreview

theorem lastScroll_lt (p : MailPreview) : p.lastScroll < 65536 :=
  Nat.mod_lt _ (by decide)

theorem scrollDown_eq (p : MailPreview) (n : Nat) :
    p.scrollDown n = { p with scroll := min (p.scroll + n) p.lastScroll } := by
  have hlast := p.lastScroll_lt
  have hcut : min (min (p.scroll + n) 65535) p.lastScroll = min (p.scroll + n) p.lastScroll := by
    omega
  unfold scrollDown
  rw [hcut]

theorem lastScroll_eq_iff (p : MailPreview) :
    p.lastScroll = min (p.lines.length - 1) 65535 ↔
      p.lines.length ≤ 65536 ∨ 65536 ∣ p.lines.length := by
  unfold lastScroll
  omega

end MailPreview

namespace State

def scroll (s : State) (moves : List (Nat × Scroll)) : State :=
  s.after (moves.map fun (now, m) => (now, m.action))

theorem update_scroll {s : State} {mail : String} {line : Nat} (h : s.mail = some ⟨mail, line⟩)
    (now : Nat) (m : Scroll) :
    (s.update now m.action).state.mail =
      some ⟨mail, m.move (MailPreview.ofMail mail).lastScroll line⟩ := by
  cases m with
  | up n =>
    change s.mail.map (·.scrollUp n.toNat) = _
    rw [h]
    rfl
  | down n =>
    change s.mail.map (·.scrollDown n.toNat) = _
    rw [h, Option.map_some, MailPreview.scrollDown_eq]
    rfl

theorem mail_scroll {s : State} {mail : String} {line : Nat} (h : s.mail = some ⟨mail, line⟩)
    (moves : List (Nat × Scroll)) :
    (s.scroll moves).mail =
      some ⟨mail, (moves.map Prod.snd).foldl
        (Scroll.move (MailPreview.ofMail mail).lastScroll) line⟩ := by
  induction moves generalizing s line with
  | nil => exact h
  | cons m moves ih => exact ih (update_scroll h m.1 m.2)

theorem mail_scroll_mailGenerated (s : State) (now : Nat) (mail : String)
    (moves : List (Nat × Scroll)) :
    ((s.update now (.mailGenerated mail)).state.scroll moves).mail =
      some ⟨mail, Scroll.lineAfter (MailPreview.ofMail mail).lastScroll (moves.map Prod.snd)⟩ :=
  mail_scroll rfl moves

theorem map_snd_at (now : Nat) (moves : List Scroll) :
    (moves.map fun m => (now, m)).map Prod.snd = moves := by
  rw [List.map_map]
  exact List.map_id' moves

theorem scroll_exact (s : State) (now : Nat) (mail : String) :
    let s' := (s.update now (.mailGenerated mail)).state
    let p := MailPreview.ofMail mail
    let last := min (p.lines.length - 1) 65535
    (∀ moves : List (Nat × Scroll),
      (s'.scroll moves).mail =
        some ⟨mail, Scroll.lineAfter p.lastScroll (moves.map Prod.snd)⟩) ∧
    (∀ moves n,
      Scroll.lineAfter p.lastScroll moves ≤ Scroll.lineAfter p.lastScroll (moves ++ [.down n])) ∧
    ((∀ moves : List (Nat × Scroll),
      (s'.scroll moves).mail = some ⟨mail, Scroll.lineAfter last (moves.map Prod.snd)⟩)
        ↔
      p.lines.length ≤ 65536 ∨ 65536 ∣ p.lines.length) ∧
    ((∀ line ≤ last, ∃ moves : List (Nat × Scroll), (s'.scroll moves).mail = some ⟨mail, line⟩)
        ↔
      p.lines.length ≤ 65536 ∨ 65536 ∣ p.lines.length) := by
  intro s' p last
  have hshown : ∀ moves : List (Nat × Scroll), (s'.scroll moves).mail =
      some ⟨mail, Scroll.lineAfter p.lastScroll (moves.map Prod.snd)⟩ :=
    s.mail_scroll_mailGenerated now mail
  have hlast : last < 65536 := Nat.lt_succ_of_le (Nat.min_le_right _ _)
  have hle : p.lastScroll ≤ last :=
    Nat.le_min.mpr ⟨Nat.mod_le _ _, Nat.le_of_lt_succ p.lastScroll_lt⟩
  have hwrap : p.lastScroll = last ↔ p.lines.length ≤ 65536 ∨ 65536 ∣ p.lines.length :=
    p.lastScroll_eq_iff
  refine ⟨hshown, Scroll.lineAfter_le_down p.lastScroll, ?_, ?_⟩
  . rw [← hwrap, ← Scroll.lineAfter_eq_iff p.lastScroll_lt hlast]
    constructor
    . intro h moves
      have hmoves := h (moves.map fun m => (now, m))
      rw [hshown, map_snd_at] at hmoves
      exact congrArg MailPreview.scroll (Option.some.inj hmoves)
    . intro h moves
      rw [hshown, h]
  . rw [← hwrap]
    constructor
    . intro h
      obtain ⟨moves, hmoves⟩ := h last (Nat.le_refl last)
      rw [hshown] at hmoves
      apply Nat.le_antisymm hle
      calc last
        _ = Scroll.lineAfter p.lastScroll (moves.map Prod.snd) :=
          (congrArg MailPreview.scroll (Option.some.inj hmoves)).symm
        _ ≤ p.lastScroll := Scroll.lineAfter_le _ _
    . intro h line hline
      rw [← h, ← Scroll.exists_lineAfter_iff p.lastScroll_lt] at hline
      obtain ⟨moves, rfl⟩ := hline
      refine ⟨moves.map fun m => (now, m), ?_⟩
      rw [hshown, map_snd_at]

end State

namespace Text

theorem splitOn_replicate (sep : Char) (n : Nat) :
    splitOn sep (List.replicate n sep) = List.replicate (n + 1) [] := by
  induction n with
  | zero => rfl
  | succ n ih =>
    rw [List.replicate_succ, splitOn, if_pos rfl, ih]
    rfl

theorem length_lines_replicate (n : Nat) : (lines (List.replicate n '\n')).length = n := by
  unfold lines
  rw [splitOn_replicate]
  simp [List.getLastD_eq_getLast?, List.getLast?_replicate]

end Text

namespace State

theorem scroll_stays_at_start :
    let mail := String.ofList (List.replicate 65537 '\n')
    let s := (initial.update 0 (.mailGenerated mail)).state
    (MailPreview.ofMail mail).lines.length = 65537 ∧
    (s.update 0 (.scrollMailDown 1)).state.mail = some ⟨mail, 0⟩ ∧
    Scroll.lineAfter (min (65537 - 1) 65535) [.down 1] = 1 := by
  intro mail s
  have hlines : (MailPreview.ofMail mail).lines.length = 65537 := by
    unfold MailPreview.lines
    rw [List.length_map]
    dsimp only [MailPreview.ofMail, mail]
    rw [String.toList_ofList, Text.length_lines_replicate]
  have hlast : (MailPreview.ofMail mail).lastScroll = 0 := by
    unfold MailPreview.lastScroll
    rw [hlines]
  have hshown : s.mail = some ⟨mail, 0⟩ := rfl
  have hmoved := update_scroll hshown 0 (.down 1)
  rw [hlast] at hmoved
  exact ⟨hlines, hmoved, rfl⟩

end State
end WeekMenu

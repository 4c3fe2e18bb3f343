import WeekMenu.Proofs.Days
import WeekMenu.Proofs.State.CommandBar
import WeekMenu.State.Update

/-!
This module contains the quick actions of the week, which clear or edit the selected slot by a
command of its own. They reach the slot exactly if some command addresses its day and the token that
is chosen for the day is not empty.
-/

namespace WeekMenu

namespace Grid

structure Emptied (c : Cursor) (g g' : Grid) : Prop where
  slot : g'.slot? c.day c.zone = some .unset
  below : c.zone = .upper → g'.slot? c.day .lower = some .unset
  above : c.zone = .lower → g'.slot? c.day .upper = g.slot? c.day .upper
  others : ∀ day zone, day ≠ c.day → g'.slot? day zone = g.slot? day zone

theorem Changed.emptied {catalog : Catalog} {token : String} {c : Cursor} {g g' : Grid}
    (h : Changed catalog c.day (.clear token c.zone) g g') : Emptied c g g' where
  slot := h.put c.zone .unset .clear
  below hzone := by
    apply h.put
    rw [hzone]
    exact .clearBelow
  above hzone := by
    apply h.keep
    rw [hzone]
    right
    intro e hputs
    cases hputs
  others day zone hday := h.keep day zone (Or.inl hday)

end Grid

namespace State

variable {s : State} {token : String}

theorem slotAddress?_of_tokenFor? (h : s.days.tokenFor? s.cursor.day = some token) :
    s.slotAddress? = some (token ++ "-" ++ s.cursor.zone.token) := by
  unfold slotAddress?
  rw [h]
  rfl

theorem request_clearSelectedSlot (h : s.days.tokenFor? s.cursor.day = some token) (now : Nat) :
    (s.update now .clearSelectedSlot).request =
      some (.execute (Command.head token s.cursor.zone "clear")) := by
  have hclear : "-clear" = "-" ++ "clear" := by decide
  change s.slotAddress?.map (fun slot => Request.execute (slot ++ "-clear")) = _
  rw [slotAddress?_of_tokenFor? h, hclear]
  simp only [Option.map_some, Command.head, String.append_assoc]

theorem bar_editSelectedSlot (h : s.days.tokenFor? s.cursor.day = some token) (now : Nat)
    (kind : SlotKind) : ∃ bar, (s.update now (.editSelectedSlot kind)).state.bar = some bar ∧
      bar.text = Command.head token s.cursor.zone kind.token ++ " " := by
  unfold update
  dsimp only
  rw [slotAddress?_of_tokenFor? h]
  exact ⟨_, rfl, CommandBar.text_opened _ _⟩

theorem quickActions_iff {σ : Type} [Storage σ] {st : State} {s : Store σ} {g : Grid}
    (hg : s.grid = some g) (hn : g.dayCount = st.days.dayCount) (now : Nat) :
    ((∃ token, st.days.Addresses token st.cursor.day) ∧
        st.days.tokenFor? st.cursor.day ≠ some "")
      ↔
    (∃ text, (st.update now .clearSelectedSlot).request = some (.execute text) ∧
      (s.execute st.days text).1.success = true ∧
      ∃ g', (s.execute st.days text).2.grid = some g' ∧ Grid.Emptied st.cursor g g') ∧
    (∀ kind value, value ≠ "" → Text.trim value = value → '\n' ∉ value.toList →
      '\r' ∉ value.toList → ∃ bar token,
        (st.update now (.editSelectedSlot kind)).state.bar = some bar ∧
        Command.parse? (bar.text ++ value) = some (.set token st.cursor.zone kind value) ∧
        st.days.resolve token = some st.cursor.day) := by
  rw [← DayTable.tokenFor?_addresses_iff]
  constructor
  . rintro ⟨token, htoken, haddr⟩
    constructor
    . obtain ⟨message, g', he, hchanged⟩ := haddr.execute_clear hg hn st.cursor.zone
      refine ⟨_, request_clearSelectedSlot htoken now, ?_⟩
      rw [he]
      exact ⟨rfl, g', Store.commit_grid s g', hchanged.emptied⟩
    . intro kind value hvalue htrim hfeed hreturn
      obtain ⟨bar, hbar, htext⟩ := bar_editSelectedSlot htoken now kind
      refine ⟨bar, token, hbar, ?_, haddr.resolve⟩
      rw [htext]
      have hhead := Command.setHead_head haddr.name st.cursor.zone kind
      exact hhead.parse?_append hvalue htrim ⟨hfeed, hreturn⟩
  . rintro ⟨_, hedit⟩
    obtain ⟨bar, token, hbar, hcmd, hr⟩ :=
      hedit .text "x" (by decide) (by decide +kernel) (by decide) (by decide)
    rw [DayTable.tokenFor?_addresses_iff]
    refine ⟨⟨token, Command.dayName_of_parse? hcmd rfl, hr⟩, ?_⟩
    intro hempty
    -- The empty token does not make a command.
    have hnone : ∀ zone, Command.parse? (Command.head "" zone "t" ++ " " ++ "x") = none := by
      intro zone
      cases zone <;> decide +kernel
    obtain ⟨bar', hbar', htext⟩ := bar_editSelectedSlot hempty now .text
    rw [hbar] at hbar'
    cases hbar'
    rw [htext, SlotKind.token, hnone] at hcmd
    cases hcmd

theorem quickActions_iff_mar :
    let days : DayTable := ⟨["Mardi", "Mar"], [("mar", "mardi"), ("x", "mar")]⟩
    let st : State := { initial with days, cursor := ⟨1, .upper⟩ }
    let g : Grid := ⟨[⟨.text "soup", .text "bread"⟩, ⟨.text "stew", .text "pie"⟩]⟩
    let s : Store Memory := { Store.new .empty ⟨[]⟩ 2 with grid := some g }
    days.Addresses "x" 1 ∧ days.tokenFor? 1 = some "x" ∧
    (st.update 0 .clearSelectedSlot).request = some (.execute "x-u-clear") ∧
    ∃ g', (s.execute days "x-u-clear").2.grid = some g' ∧ Grid.Emptied ⟨1, .upper⟩ g g' := by
  intro days st g s
  have haddr : days.Addresses "x" 1 := ⟨by decide, by decide +kernel⟩
  have htoken : days.tokenFor? 1 = some "x" := by decide +kernel
  have hrequest : (st.update 0 .clearSelectedSlot).request = some (.execute "x-u-clear") := by
    decide +kernel
  have hempty : days.tokenFor? 1 ≠ some "" := by
    rw [htoken]
    decide
  have hquick := @quickActions_iff Memory _ st s g rfl rfl 0
  obtain ⟨⟨text, htext, _, hcleared⟩, _⟩ := hquick.mp ⟨⟨"x", haddr⟩, hempty⟩
  rw [hrequest] at htext
  cases htext
  exact ⟨haddr, htoken, hrequest, hcleared⟩

theorem clearSelectedSlot_of_other_day :
    let days : DayTable := ⟨["Mardi", "Mar"], DayTable.bundled.aliases⟩
    let st : State := { initial with days, cursor := ⟨1, .upper⟩ }
    let g : Grid := ⟨[⟨.text "soup", .text "bread"⟩, ⟨.text "stew", .text "pie"⟩]⟩
    let s : Store Memory := { Store.new .empty ⟨[]⟩ 2 with grid := some g }
    (st.update 0 .clearSelectedSlot).request = some (.execute "mar-u-clear") ∧
    (s.execute days "mar-u-clear").1.success = true ∧
    (s.execute days "mar-u-clear").2.grid =
      some ⟨[⟨.unset, .unset⟩, ⟨.text "stew", .text "pie"⟩]⟩ := by
  decide +kernel

end State
end WeekMenu

import WeekMenu.Proofs.Command
import WeekMenu.Proofs.Days.Order
import WeekMenu.Proofs.Store.Verdict

/-!
This module contains facts about the tokens of a day table: which day a token addresses, which
tokens are offered, when a command accepts a token that is offered, and when the token chosen for a
day leads back to it.
-/

namespace WeekMenu

namespace Command

theorem dayName_of_parse? {text day : String} {cmd : Command} (h : parse? text = some cmd)
    (hc : cmd.token? = some day) : DayName day := by
  cases (parse?_eq_some_iff.mp h).wellFormed (Text.trimmed_trimChars _) with
  | generate => cases hc
  | clear hday =>
    cases hc
    exact hday
  | set hday =>
    cases hc
    exact hday

theorem parse?_head_clear_iff (day : String) (zone : Zone) :
    parse? (head day zone "clear") = some (.clear day zone) ↔ DayName day := by
  constructor
  . intro h
    exact dayName_of_parse? h rfl
  . intro h
    exact parse?_head_clear h zone

end Command

namespace DayTable

variable {t : DayTable} {token : String} {day : Nat}

def labelOf (t : DayTable) (token : String) : String :=
  (t.aliases.lookup token).getD token

theorem target_eq (t : DayTable) (token : String) :
    t.target token = t.labelOf (Text.lower token) := by
  rfl

theorem exists_resolve_iff :
    (∃ day, t.resolve token = some day) ↔ t.target token ∈ t.lowerLabels := by
  unfold resolve
  rw [← Option.isSome_iff_exists, List.findIdx?_isSome, List.any_eq_true]
  simp

theorem lower_label_of_resolve {label : String} (h : t.resolve token = some day)
    (hl : t.label? day = some label) : Text.lower label = t.target token := by
  unfold resolve at h
  rw [List.findIdx?_eq_some_iff_getElem] at h
  obtain ⟨hlt, heq, _⟩ := h
  have hlabel : t.lowerLabels[day]? = some (Text.lower label) := by
    unfold label? at hl
    simp [lowerLabels, hl]
  rw [List.getElem?_eq_getElem hlt] at hlabel
  rw [beq_iff_eq] at heq
  exact (Option.some.inj hlabel).symm.trans heq

theorem resolve_congr {token' : String} (h : t.target token = t.target token') :
    t.resolve token = t.resolve token' := by
  unfold resolve
  rw [h]

theorem labelOf_mem_iff (h : token ∈ t.orderedTokens) :
    t.labelOf token ∈ t.lowerLabels ↔
      ∀ label, t.aliases.lookup token = some label → label ∈ t.lowerLabels := by
  unfold labelOf
  cases hl : t.aliases.lookup token with
  | some label => simp
  | none =>
    rw [mem_orderedTokens_iff, mem_liveTokens_iff] at h
    rcases h with ⟨label, _, hmem⟩ | ⟨_, hmem⟩
    . rw [List.lookup_eq_none_iff] at hl
      simpa using hl _ hmem
    . simp [hmem]

/--
A token may be offered: a command may hold it, it has the same label in lower case, and its first
alias, if it has any, has a label of the table.
-/
structure Sound (t : DayTable) (token : String) : Prop where
  name : Command.DayName token
  lower : t.labelOf (Text.lower token) = t.labelOf token
  live : ∀ label, t.aliases.lookup token = some label → label ∈ t.lowerLabels

theorem sound_iff (h : token ∈ t.orderedTokens) :
    t.Sound token ↔
      Command.DayName token ∧ ∃ day label, t.resolve token = some day ∧
        t.label? day = some label ∧ Text.lower label = t.labelOf token := by
  constructor
  . intro hsound
    have hmem : t.target token ∈ t.lowerLabels := by
      rw [target_eq, hsound.lower, labelOf_mem_iff h]
      exact hsound.live
    obtain ⟨day, hday⟩ := exists_resolve_iff.mpr hmem
    obtain ⟨label, hlabel⟩ := label?_of_resolve hday
    refine ⟨hsound.name, day, label, hday, hlabel, ?_⟩
    rw [lower_label_of_resolve hday hlabel, target_eq, hsound.lower]
  . rintro ⟨hname, day, label, hday, hlabel, heq⟩
    have htarget : t.target token = t.labelOf token := by
      rw [← heq, lower_label_of_resolve hday hlabel]
    refine ⟨hname, htarget, ?_⟩
    rw [← labelOf_mem_iff h, ← htarget]
    exact exists_resolve_iff.mp ⟨day, hday⟩

structure Addresses (t : DayTable) (token : String) (day : Nat) : Prop where
  name : Command.DayName token
  resolve : t.resolve token = some day

theorem Addresses.execute_clear {σ : Type} [Storage σ] {s : Store σ} {g : Grid}
    (h : t.Addresses token day) (hg : s.grid = some g) (hn : g.dayCount = t.dayCount)
    (zone : Zone) :
    ∃ message g', s.execute t (Command.head token zone "clear") = (.accepted message, s.commit g') ∧
      Grid.Changed s.catalog day (.clear token zone) g g' := by
  have hcmd := Command.parse?_head_clear h.name zone
  exact Store.execute_of_admits hg hn hcmd rfl h.resolve (.clear h.resolve)

theorem offered_sound_iff (h : token ∈ t.orderedTokens) :
    t.Sound token ↔
      Command.parse? (Command.head token .upper "clear") = some (.clear token .upper) ∧
      (∃ day label, t.resolve token = some day ∧ t.label? day = some label ∧
        Text.lower label = t.labelOf token) ∧
      ∀ (σ : Type) [Storage σ] (s : Store σ) (g : Grid), s.grid = some g →
        g.dayCount = t.dayCount →
        (s.execute t (Command.head token .upper "clear")).1.success = true := by
  rw [sound_iff h, Command.parse?_head_clear_iff]
  constructor
  . rintro ⟨hname, day, label, hday, hlabel⟩
    refine ⟨hname, ⟨day, label, hday, hlabel⟩, ?_⟩
    intro σ _ s g hg hn
    have haddr : t.Addresses token day := ⟨hname, hday⟩
    obtain ⟨message, g', he, _⟩ := haddr.execute_clear hg hn .upper
    rw [he]
    rfl
  . rintro ⟨hname, hday, _⟩
    exact ⟨hname, hday⟩

theorem offered_sound_iff_lu :
    let t : DayTable := ⟨["Mardi", "Lundi"], [("lu", "lundi"), ("LU", "mardi"), ("lu", "mardi")]⟩
    let s := (Store.new Memory.empty ⟨[]⟩ t.dayCount).load
    "lu" ∈ t.orderedTokens ∧ t.Sound "lu" ∧
    Command.parse? "lu-u-clear" = some (.clear "lu" .upper) ∧
    (∃ day label, t.resolve "lu" = some day ∧ t.label? day = some label ∧
      Text.lower label = "lundi") ∧
    (s.execute t "lu-u-clear").1.success = true := by
  intro t s
  have hoffered : "lu" ∈ t.orderedTokens := by decide +kernel
  have hname : Command.DayName "lu" := by decide
  have hlive : ∀ label, t.aliases.lookup "lu" = some label → label ∈ t.lowerLabels := by
    intro label h
    cases h
    decide +kernel
  have hsound : t.Sound "lu" := ⟨hname, by decide +kernel, hlive⟩
  have hhead : Command.head "lu" .upper "clear" = "lu-u-clear" := by rfl
  obtain ⟨hcmd, hday, haccepted⟩ := (offered_sound_iff hoffered).mp hsound
  rw [hhead] at hcmd haccepted
  exact ⟨hoffered, hsound, hcmd, hday, haccepted Memory s _ rfl rfl⟩

theorem offered_not_accepted :
    let t : DayTable := ⟨["Mon", "Tue"], bundled.aliases⟩
    let s := (Store.new Memory.empty ⟨[]⟩ t.dayCount).load
    t.orderedTokens = ["mon", "tue"] ∧
    Command.parse? "mon-u-clear" = some (.clear "mon" .upper) ∧ t.resolve "mon" = none ∧
    (s.execute t "mon-u-clear").1 = .rejected (.unknownDay "mon") := by
  decide +kernel

theorem Addresses.lower (h : t.Addresses token day) : t.Addresses (Text.lower token) day where
  name := h.name.lower
  resolve := by
    rw [← h.resolve]
    apply resolve_congr
    rw [target_eq, target_eq, h.name.lower_lower]

theorem Addresses.offered_or_label {label : String} (h : t.Addresses token day)
    (hlabel : t.label? day = some label) :
    Text.lower token ∈ t.orderedTokens ∨ Text.lower label = Text.lower token := by
  have htarget : t.target token ∈ t.lowerLabels := exists_resolve_iff.mp ⟨day, h.resolve⟩
  rw [lower_label_of_resolve h.resolve hlabel]
  rw [target_eq, labelOf] at htarget ⊢
  cases hl : t.aliases.lookup (Text.lower token) with
  | none => exact Or.inr rfl
  | some name =>
    left
    rw [hl] at htarget
    obtain ⟨before, after, haliases, _⟩ := List.lookup_eq_some_iff.mp hl
    rw [mem_orderedTokens_iff, mem_liveTokens_iff]
    exact Or.inl ⟨name, htarget, by simp [haliases]⟩

theorem tokenFor?_addresses_iff :
    (∃ token, t.tokenFor? day = some token ∧ t.Addresses token day) ↔
      (∃ token, t.Addresses token day) ∧ t.tokenFor? day ≠ some "" := by
  constructor
  . rintro ⟨token, htoken, haddr⟩
    refine ⟨⟨token, haddr⟩, ?_⟩
    rw [htoken]
    simpa using haddr.name.ne_empty
  . rintro ⟨⟨token, haddr⟩, hempty⟩
    obtain ⟨label, hlabel⟩ := label?_of_resolve haddr.resolve
    unfold tokenFor? at hempty ⊢
    rw [hlabel] at hempty ⊢
    dsimp only [Option.map_some] at hempty ⊢
    refine ⟨_, rfl, ?_⟩
    generalize husable : t.orderedTokens.filter (fun token => token.toList.all Char.isAlpha) =
      usable at hempty ⊢
    cases hfind : usable.find? (fun token => t.resolve token == some day) with
    | some found =>
      rw [hfind] at hempty
      have hmem := List.mem_of_find?_eq_some hfind
      rw [← husable, List.mem_filter, List.all_eq_true] at hmem
      have hne : found ≠ "" := by
        simpa using hempty
      exact ⟨⟨hne, hmem.2⟩, by simpa using List.find?_some hfind⟩
    | none =>
      -- Then the lower case of the token is not among those tried, so it is the label.
      rcases haddr.offered_or_label hlabel with hoffered | heq
      . rw [List.find?_eq_none] at hfind
        have hmem : Text.lower token ∈ usable := by
          rw [← husable, List.mem_filter, List.all_eq_true]
          exact ⟨hoffered, haddr.lower.name.isAlpha⟩
        exact absurd (by simp [haddr.lower.resolve]) (hfind _ hmem)
      . rw [Option.getD_none, heq]
        exact haddr.lower

end DayTable
end WeekMenu

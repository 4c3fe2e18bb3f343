import WeekMenu.Proofs.Catalog
import WeekMenu.Proofs.Days
import WeekMenu.Suggestion

/-!
This module contains facts about the suggestions: there are never more than the limit, and behind
the head of a command that sets a slot to a sandwich they are the meals that the catalog finds for
what is typed, each of them a command that is accepted and means this meal.
-/

namespace WeekMenu

namespace Suggestion

theorem length_forHead_le (completions : List Completion) (head : String) :
    (forHead completions head).length ≤ limit := by
  unfold forHead
  apply List.length_take_le

theorem length_forValue_le (catalog : Catalog) (completions : List Completion)
    (head value : String) : (forValue catalog completions head value).length ≤ limit := by
  unfold forValue
  dsimp only
  split
  . simp [limit]
  . split
    . apply List.length_take_le
    . split
      . rw [List.length_map]
        apply List.length_take_le
      . repeat' split
        all_goals simp [limit]

theorem length_suggest_le (days : DayTable) (catalog : Catalog) (text : String) :
    (suggest days catalog text).length ≤ limit := by
  unfold suggest
  dsimp only
  split
  . simp [atStart, limit]
  . apply length_forHead_le
  . apply length_forValue_le

open Command

variable {h day : String} {zone : Zone} {kind : SlotKind}

theorem generateWords_lower (hh : SetHead h day zone kind) : generateWords (Text.lower h) = [] := by
  unfold generateWords
  rw [List.filter_eq_nil_iff]
  intro word hword hprefix
  rw [List.isPrefixOf_iff_prefix] at hprefix
  -- The head has a dash in it, which is not a letter of a word.
  have hmem := List.mem_append_left ["clear", "empty", "reset"] hword
  apply dash_not_mem_of_isAlpha fun c hc => (isAlpha_of_mem_word hmem c hc).1
  exact hprefix.subset hh.lower.dash_mem

theorem forValue_sandwich (hh : SetHead h day zone .sandwich) (catalog : Catalog)
    (completions : List Completion) (value : String) :
    forValue catalog completions h value =
      ((catalog.search value).take limit).map fun m => h ++ " " ++ m.name := by
  unfold forValue
  dsimp only
  rw [generateWords_lower hh, hh.splitOn_lower]
  simp [hh.dash_mem, SlotKind.token]

theorem suggest_append (hh : SetHead h day zone kind) (days : DayTable) (catalog : Catalog)
    (fragment : String) :
    suggest days catalog (h ++ " " ++ fragment)
      =
    forValue catalog (Completion.all days) h
      (String.ofList (Text.collapseBlanks fragment.toList)) := by
  have hblank : Text.isBlank ' ' = true := by decide
  unfold suggest
  dsimp only
  rw [SetHead.toList_append, Text.collapseBlanks_append hh.ne_nil hh.not_blank hblank,
    Text.splitFirstBlank_append hh.not_blank hblank]
  split
  . next heq =>
    rw [Prod.mk.injEq] at heq
    exact absurd heq.1 hh.ne_nil
  . next heq => cases heq
  . next heq =>
    cases heq
    rw [String.ofList_toList]

theorem suggest_sandwich_eq (hh : SetHead h day zone .sandwich) (days : DayTable)
    (catalog : Catalog) (fragment : String) :
    suggest days catalog (h ++ " " ++ fragment)
      =
    ((catalog.search (String.ofList (Text.collapseBlanks fragment.toList))).take limit).map
      fun m => h ++ " " ++ m.name := by
  rw [suggest_append hh, forValue_sandwich hh]

theorem execute_name {σ : Type} [Storage σ] {s : Store σ} {g : Grid} {days : DayTable} {i : Nat}
    {m : Meal} (hh : SetHead h day zone .sandwich) (hr : days.resolve day = some i)
    (hg : s.grid = some g) (hn : g.dayCount = days.dayCount) (hz : g.Writable i zone)
    (hm : m ∈ s.catalog.meals) (hname : m.name ≠ "") (htrim : Text.trim m.name = m.name)
    (hline : '\n' ∉ m.name.toList ∧ '\r' ∉ m.name.toList) :
    ∃ message g', s.execute days (h ++ " " ++ m.name) = (.accepted message, s.commit g') ∧
      ∃ k ∈ s.catalog.meals, g'.slot? i zone = some (.meal k) ∧
        Text.lower k.name = Text.lower m.name := by
  have hcmd := hh.parse?_append hname htrim hline
  obtain ⟨k, hk, hlookup, hlower⟩ := Catalog.lookup_name_of_mem hm
  obtain ⟨message, g', he, hchanged⟩ :=
    Store.execute_of_admits hg hn hcmd rfl hr (.sandwich hr hz hlookup)
  exact ⟨message, g', he, k, hk, hchanged.put zone _ (.sandwich hlookup), hlower⟩

/--
Behind the head of a command that sets a slot to a sandwich, the first six meals are suggested whose
names contain what is typed, letter case aside. If the name of such a meal can be the value of a
command, then the suggestion is accepted wherever the slot may be written, and sets it to this meal,
or to another one of the same name in lower case.
-/
theorem suggest_sandwich {days : DayTable} {i : Nat} (hh : SetHead h day zone .sandwich)
    (hr : days.resolve day = some i) (catalog : Catalog) (typed : String) :
    let fragment := (Text.lower (String.ofList (Text.collapseBlanks typed.toList))).toList
    let offered := (catalog.meals.filter fun m => fragment <:+: (Text.lower m.name).toList).take 6
    suggest days catalog (h ++ " " ++ typed) = offered.map (fun m => h ++ " " ++ m.name) ∧
    ∀ m ∈ offered, m.name ≠ "" → Text.trim m.name = m.name → '\n' ∉ m.name.toList →
      '\r' ∉ m.name.toList → ∀ (σ : Type) [Storage σ] (s : Store σ) (g : Grid),
      s.catalog = catalog → s.grid = some g → g.dayCount = days.dayCount → g.Writable i zone →
      ∃ message g', s.execute days (h ++ " " ++ m.name) = (.accepted message, s.commit g') ∧
        ∃ k ∈ catalog.meals, g'.slot? i zone = some (.meal k) ∧
          Text.lower k.name = Text.lower m.name ∧
          ((∀ other ∈ catalog.meals, Text.lower other.name = Text.lower m.name → other = m) →
            k = m) := by
  intro fragment offered
  constructor
  . rw [suggest_sandwich_eq hh, Catalog.search]
    have hmentions : ∀ m : Meal,
        Catalog.mentions (String.ofList (Text.collapseBlanks typed.toList)) m =
          decide (fragment <:+: (Text.lower m.name).toList) := by
      intro m
      rw [Bool.eq_iff_iff, Catalog.mentions_iff, decide_eq_true_iff]
    rw [List.filter_congr fun m _ => hmentions m]
    rfl
  . intro m hm hname htrim hfeed hreturn σ _ s g hcatalog hg hn hz
    subst hcatalog
    have hmem : m ∈ s.catalog.meals := List.mem_of_mem_filter (List.mem_of_mem_take hm)
    obtain ⟨message, g', he, k, hk, hslot, hlower⟩ :=
      execute_name hh hr hg hn hz hmem hname htrim ⟨hfeed, hreturn⟩
    refine ⟨message, g', he, k, hk, hslot, hlower, ?_⟩
    intro hunique
    exact hunique k hk hlower

theorem suggest_sandwich_ham :
    let days : DayTable := ⟨["Mo", "Tu"], []⟩
    let catalog : Catalog := ⟨[⟨"Ham & Cheese", ""⟩, ⟨"Soup", ""⟩, ⟨"Ham", "ham.png"⟩]⟩
    let s := (Store.new Memory.empty catalog days.dayCount).load
    SetHead "Tu-U-S" "Tu" .upper .sandwich ∧ days.resolve "Tu" = some 1 ∧
    suggest days catalog "Tu-U-S  HAM" = ["Tu-U-S Ham & Cheese", "Tu-U-S Ham"] ∧
    ∃ message g', s.execute days "Tu-U-S Ham" = (.accepted message, s.commit g') ∧
      g'.slot? 1 .upper = some (.meal ⟨"Ham", "ham.png"⟩) := by
  intro days catalog s
  have hday : DayName "Tu" := by decide
  have hhead : SetHead "Tu-U-S" "Tu" .upper .sandwich := by
    exact .intro (.intro hday List.mem_cons_self) List.mem_cons_self
  have hr : days.resolve "Tu" = some 1 := by decide +kernel
  obtain ⟨hsuggest, haccepted⟩ := suggest_sandwich hhead hr catalog " HAM"
  obtain ⟨message, g', he, k, _, hslot, _, hunique⟩ :=
    haccepted ⟨"Ham", "ham.png"⟩ (by decide +kernel) (by decide) (by decide +kernel) (by decide)
      (by decide) Memory s _ rfl rfl rfl (Or.inl rfl)
  have hk : k = ⟨"Ham", "ham.png"⟩ := hunique (by decide +kernel)
  rw [hk] at hslot
  refine ⟨hhead, hr, ?_, message, g', he, hslot⟩
  have htext : "Tu-U-S" ++ " " ++ " HAM" = "Tu-U-S  HAM" := by rfl
  rw [← htext, hsuggest]
  decide +kernel

end Suggestion
end WeekMenu

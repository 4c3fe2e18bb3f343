import WeekMenu.Command.Basic
import WeekMenu.Proofs.Text.Blank
import WeekMenu.Proofs.Text.Case

/-!
This module contains the grammar of the commands, the proof that `parse?` accepts exactly the texts
that it derives, and facts about the commands that a text can spell and about the heads of those
that set a slot.
-/

namespace WeekMenu

def Zone.letters : Zone → List Char
  | .upper => ['U', 'u']
  | .lower => ['L', 'l']

def SlotKind.letters : SlotKind → List Char
  | .sandwich => ['S', 's']
  | .text => ['T', 't']

theorem Zone.lowerAscii_eq_token_iff (zone : Zone) (cs : List Char) :
    Text.lowerAscii cs = zone.token.toList ↔ ∃ z ∈ zone.letters, cs = [z] := by
  cases zone with
  | upper => exact Text.lowerAscii_eq_singleton_iff (by decide) (by decide) cs
  | lower => exact Text.lowerAscii_eq_singleton_iff (by decide) (by decide) cs

theorem SlotKind.lowerAscii_eq_token_iff (kind : SlotKind) (cs : List Char) :
    Text.lowerAscii cs = kind.token.toList ↔ ∃ letter ∈ kind.letters, cs = [letter] := by
  cases kind with
  | sandwich => exact Text.lowerAscii_eq_singleton_iff (by decide) (by decide) cs
  | text => exact Text.lowerAscii_eq_singleton_iff (by decide) (by decide) cs

theorem Zone.isAlpha_of_mem_letters {zone : Zone} {z : Char} (h : z ∈ zone.letters) :
    z.isAlpha = true := by
  have hletters : zone.letters.all Char.isAlpha = true := by
    cases zone <;> rfl
  exact List.all_eq_true.mp hletters z h

theorem SlotKind.isAlpha_of_mem_letters {kind : SlotKind} {letter : Char}
    (h : letter ∈ kind.letters) : letter.isAlpha = true := by
  have hletters : kind.letters.all Char.isAlpha = true := by
    cases kind <;> rfl
  exact List.all_eq_true.mp hletters letter h

theorem Zone.toLower_mem_letters {zone : Zone} {z : Char} (h : z ∈ zone.letters) :
    z.toLower ∈ zone.letters := by
  have hletters : zone.letters.all (fun z => zone.letters.contains z.toLower) = true := by
    cases zone <;> rfl
  simpa using List.all_eq_true.mp hletters z h

theorem SlotKind.toLower_mem_letters {kind : SlotKind} {letter : Char}
    (h : letter ∈ kind.letters) : letter.toLower ∈ kind.letters := by
  have hletters : kind.letters.all (fun letter => kind.letters.contains letter.toLower) = true := by
    cases kind <;> rfl
  simpa using List.all_eq_true.mp hletters letter h

theorem Zone.ofChars?_eq_some_iff {cs : List Char} {zone : Zone} :
    Zone.ofChars? cs = some zone ↔ ∃ z ∈ zone.letters, cs = [z] := by
  rw [← Zone.lowerAscii_eq_token_iff]
  unfold Zone.ofChars?
  constructor
  . intro h
    split at h
    . next hcs =>
      cases h
      exact hcs
    . next hcs =>
      cases h
      exact hcs
    . cases h
  . intro h
    rw [h]
    cases zone with
    | upper => rfl
    | lower => rfl

namespace Command

open Text

structure DayName (day : String) : Prop where
  ne_empty : day ≠ ""
  isAlpha : ∀ c ∈ day.toList, c.isAlpha = true

inductive Address : List Char → String → Zone → Prop
  | intro {day : String} {zone : Zone} {z : Char} (hday : DayName day) (hz : z ∈ zone.letters) :
      Address (day.toList ++ ['-', z, '-']) day zone

inductive Spelled : List Char → Command → Prop
  | generate {cs : List Char} {word : String} (hword : word ∈ ["generate", "gen"])
      (hcs : lowerAscii cs = word.toList) : Spelled cs .generate
  | clear {pre action : List Char} {day : String} {zone : Zone} {word : String}
      (hpre : Address pre day zone) (hword : word ∈ ["clear", "empty", "reset"])
      (haction : lowerAscii action = word.toList) : Spelled (pre ++ action) (.clear day zone)
  | set {pre rest : List Char} {day value : String} {zone : Zone} {kind : SlotKind}
      {letter blank : Char} (hpre : Address pre day zone) (hletter : letter ∈ kind.letters)
      (hblank : isBlank blank = true) (hvalue : value.toList = trimChars rest)
      (hline : '\n' ∉ value.toList ∧ '\r' ∉ value.toList) :
      Spelled (pre ++ letter :: blank :: rest) (.set day zone kind value)

inductive WellFormed : Command → Prop
  | generate : WellFormed .generate
  | clear {day : String} {zone : Zone} (hday : DayName day) : WellFormed (.clear day zone)
  | set {day value : String} {zone : Zone} {kind : SlotKind} (hday : DayName day)
      (hvalue : value ≠ "") (htrim : trim value = value)
      (hline : '\n' ∉ value.toList ∧ '\r' ∉ value.toList) : WellFormed (.set day zone kind value)

theorem isAlpha_of_mem_word {word : String}
    (hword : word ∈ ["generate", "gen", "clear", "empty", "reset"]) :
    ∀ c ∈ word.toList, c.isAlpha = true ∧ c ≠ 'k' := by
  have hwords : ["generate", "gen", "clear", "empty", "reset"].all
      (fun word => word.toList.all fun c => c.isAlpha && c != 'k') = true := by decide
  intro c hc
  simpa using List.all_eq_true.mp (List.all_eq_true.mp hwords word hword) c hc

theorem isBlank_of_mem_word {word : String}
    (hword : word ∈ ["generate", "gen", "clear", "empty", "reset"]) :
    ∀ c ∈ word.toList, isBlank c = false := by
  intro c hc
  exact isBlank_of_isAlpha (isAlpha_of_mem_word hword c hc).1

theorem contains_ofList_iff {words : List String} {cs : List Char} :
    words.contains (String.ofList cs) = true ↔ ∃ word ∈ words, cs = word.toList := by
  rw [List.contains_iff_mem]
  constructor
  . intro h
    exact ⟨_, h, by simp⟩
  . rintro ⟨word, hword, rfl⟩
    simpa using hword

theorem dash_not_mem_of_isAlpha {cs : List Char} (h : ∀ c ∈ cs, c.isAlpha = true) : '-' ∉ cs := by
  intro hmem
  exact absurd (h _ hmem) (by decide)

namespace DayName

variable {day : String}

theorem iff_all : day ≠ "" ∧ day.toList.all Char.isAlpha = true ↔ DayName day := by
  rw [List.all_eq_true]
  exact ⟨fun h => ⟨h.1, h.2⟩, fun h => ⟨h.ne_empty, h.isAlpha⟩⟩

instance (day : String) : Decidable (DayName day) :=
  decidable_of_iff _ iff_all

theorem toList_lower (h : DayName day) : (Text.lower day).toList = lowerAscii day.toList := by
  apply toList_lower_of_ascii
  intro c hc
  exact toNat_lt_of_isAlpha (h.isAlpha c hc)

theorem lower (h : DayName day) : DayName (Text.lower day) where
  ne_empty := lower_ne_empty h.ne_empty
  isAlpha := by
    rw [h.toList_lower, isAlpha_lowerAscii_iff]
    exact h.isAlpha

theorem lower_lower (h : DayName day) : Text.lower (Text.lower day) = Text.lower day := by
  rw [← String.toList_inj, h.lower.toList_lower, h.toList_lower, lowerAscii_lowerAscii]

end DayName

namespace Address

variable {pre action : List Char} {day : String} {zone : Zone}

theorem not_blank (h : Address pre day zone) : ∀ c ∈ pre, isBlank c = false := by
  cases h with
  | intro hday hz =>
    rw [List.forall_mem_append]
    constructor
    . intro c hc
      exact isBlank_of_isAlpha (hday.isAlpha c hc)
    . have := isBlank_of_isAlpha (Zone.isAlpha_of_mem_letters hz)
      simpa [this] using by decide

theorem splitOn_append (h : Address pre day zone) (haction : '-' ∉ action) :
    ∃ z ∈ zone.letters, splitOn '-' (pre ++ action) = [day.toList, [z], action] := by
  cases h with
  | @intro _ _ z hday hz =>
    have hdash : '-' ∉ [z] := by
      apply dash_not_mem_of_isAlpha
      simpa using Zone.isAlpha_of_mem_letters hz
    refine ⟨z, hz, ?_⟩
    rw [splitOn_eq_three_iff]
    exact ⟨by simp, dash_not_mem_of_isAlpha hday.isAlpha, hdash, haction⟩

theorem lower (h : Address pre day zone) : Address (lowerAscii pre) (Text.lower day) zone := by
  cases h with
  | @intro _ _ z hday hz =>
    have hpre : lowerAscii (day.toList ++ ['-', z, '-']) =
        (Text.lower day).toList ++ ['-', z.toLower, '-'] := by
      rw [hday.toList_lower]
      simp [lowerAscii]
    rw [hpre]
    exact .intro hday.lower (Zone.toLower_mem_letters hz)

end Address

inductive SetHead : String → String → Zone → SlotKind → Prop
  | intro {pre : List Char} {day : String} {zone : Zone} {kind : SlotKind} {letter : Char}
      (hpre : Address pre day zone) (hletter : letter ∈ kind.letters) :
      SetHead (String.ofList (pre ++ [letter])) day zone kind

namespace SetHead

variable {h day : String} {zone : Zone} {kind : SlotKind}

theorem isAlpha_or_dash (hh : SetHead h day zone kind) :
    ∀ c ∈ h.toList, c.isAlpha = true ∨ c = '-' := by
  cases hh with
  | intro hpre hletter =>
    cases hpre with
    | intro hday hz =>
      have hz := Zone.isAlpha_of_mem_letters hz
      have hletter := SlotKind.isAlpha_of_mem_letters hletter
      simp only [String.toList_ofList, List.forall_mem_append]
      refine ⟨⟨fun c hc => Or.inl (hday.isAlpha c hc), ?_⟩, ?_⟩
      . simp [hz]
      . simp [hletter]

theorem dash_mem (hh : SetHead h day zone kind) : '-' ∈ h.toList := by
  cases hh with
  | intro hpre =>
    cases hpre with
    | intro => simp

theorem ne_nil (hh : SetHead h day zone kind) : h.toList ≠ [] :=
  List.ne_nil_of_mem hh.dash_mem

theorem not_blank (hh : SetHead h day zone kind) : ∀ c ∈ h.toList, isBlank c = false := by
  intro c hc
  rcases hh.isAlpha_or_dash c hc with halpha | rfl
  . exact isBlank_of_isAlpha halpha
  . decide

theorem toList_lower (hh : SetHead h day zone kind) :
    (Text.lower h).toList = lowerAscii h.toList := by
  apply toList_lower_of_ascii
  intro c hc
  rcases hh.isAlpha_or_dash c hc with halpha | rfl
  . exact toNat_lt_of_isAlpha halpha
  . decide

theorem lower (hh : SetHead h day zone kind) :
    SetHead (Text.lower h) (Text.lower day) zone kind := by
  have hlower := hh.toList_lower
  cases hh with
  | @intro pre _ _ _ letter hpre hletter =>
    have hhead : Text.lower (String.ofList (pre ++ [letter])) =
        String.ofList (lowerAscii pre ++ [letter.toLower]) := by
      rw [← String.toList_inj, hlower]
      simp [lowerAscii]
    rw [hhead]
    exact .intro hpre.lower (SlotKind.toLower_mem_letters hletter)

theorem splitOn_lower (hh : SetHead h day zone kind) :
    String.ofList ((splitOn '-' (Text.lower h).toList).getD 2 []) = kind.token := by
  rw [hh.toList_lower]
  cases hh with
  | @intro pre _ _ _ letter hpre hletter =>
    have htoken : lowerAscii [letter] = kind.token.toList :=
      (kind.lowerAscii_eq_token_iff [letter]).mpr ⟨letter, hletter, rfl⟩
    have hdash : '-' ∉ lowerAscii [letter] := by
      apply dash_not_mem_of_isAlpha
      rw [isAlpha_lowerAscii_iff]
      simpa using SlotKind.isAlpha_of_mem_letters hletter
    have happend : lowerAscii (pre ++ [letter]) = lowerAscii pre ++ lowerAscii [letter] := by
      simp [lowerAscii]
    obtain ⟨z, _, hsplit⟩ := hpre.lower.splitOn_append hdash
    rw [String.toList_ofList, happend, hsplit, htoken]
    exact String.ofList_toList

end SetHead

theorem ofAction?_none_eq_some_iff {day : String} {zone : Zone} {action : List Char}
    {cmd : Command} :
    ofAction? day zone action none = some cmd ↔
      (∃ word ∈ clearWords, lowerAscii action = word.toList) ∧ cmd = .clear day zone := by
  unfold ofAction?
  dsimp only
  rw [Option.ite_none_right_eq_some, contains_ofList_iff, Option.some.injEq, eq_comm (b := cmd)]

theorem ofAction?_some_eq_some_iff {day : String} {zone : Zone} {action value : List Char}
    {cmd : Command} :
    ofAction? day zone action (some value) = some cmd ↔
      value ≠ [] ∧ ∃ kind : SlotKind, ∃ letter ∈ kind.letters,
        action = [letter] ∧ cmd = .set day zone kind (String.ofList value) := by
  have hsandwich := SlotKind.lowerAscii_eq_token_iff .sandwich action
  have htext := SlotKind.lowerAscii_eq_token_iff .text action
  constructor
  . intro h
    unfold ofAction? at h
    split at h
    . next hvalue => cases hvalue
    . next c cs haction hvalue =>
      cases h
      cases hvalue
      obtain ⟨letter, hletter, hcs⟩ := hsandwich.mp haction
      exact ⟨by simp, .sandwich, letter, hletter, hcs, rfl⟩
    . next c cs haction hvalue =>
      cases h
      cases hvalue
      obtain ⟨letter, hletter, hcs⟩ := htext.mp haction
      exact ⟨by simp, .text, letter, hletter, hcs, rfl⟩
    . cases h
  . rintro ⟨hvalue, kind, letter, hletter, hcs, rfl⟩
    obtain ⟨c, cs, rfl⟩ := List.exists_cons_of_ne_nil hvalue
    unfold ofAction?
    cases kind with
    | sandwich =>
      rw [hsandwich.mpr ⟨letter, hletter, hcs⟩]
      rfl
    | text =>
      rw [htext.mpr ⟨letter, hletter, hcs⟩]
      rfl

theorem ofHead?_eq_some_iff {head : List Char} {value : Option (List Char)} {cmd : Command} :
    ofHead? head value = some cmd ↔
      ∃ pre action day zone, head = pre ++ action ∧ Address pre day zone ∧ '-' ∉ action ∧
        ofAction? day zone action value = some cmd := by
  constructor
  . intro h
    unfold ofHead? at h
    split at h
    . next day z action hsplit =>
      split at h
      . cases h
      . next hday =>
        split at h
        . cases h
        . next zone hzone =>
          rw [splitOn_eq_three_iff] at hsplit
          obtain ⟨rfl, -, -, haction⟩ := hsplit
          obtain ⟨z, hz, rfl⟩ := Zone.ofChars?_eq_some_iff.mp hzone
          rw [Bool.or_eq_true, not_or] at hday
          have hday : DayName (String.ofList day) := by
            constructor
            . simpa using hday.1
            . simpa using hday.2
          refine ⟨_, action, _, zone, ?_, .intro hday hz, haction, h⟩
          simp
    . cases h
  . rintro ⟨pre, action, day, zone, rfl, hpre, haction, hcmd⟩
    obtain ⟨z, hz, hsplit⟩ := hpre.splitOn_append haction
    obtain ⟨hday, -⟩ := hpre
    unfold ofHead?
    rw [hsplit]
    dsimp only
    rw [if_neg, Zone.ofChars?_eq_some_iff.mpr ⟨z, hz, rfl⟩]
    . simpa using hcmd
    . simpa [hday.ne_empty] using hday.isAlpha

theorem contains_lowerChars_iff {cs : List Char} :
    generateWords.contains (String.ofList (lowerChars cs)) = true ↔
      ∃ word ∈ generateWords, lowerAscii cs = word.toList := by
  rw [contains_ofList_iff]
  apply exists_congr
  intro word
  apply and_congr_right
  intro hword
  apply lowerChars_eq_iff
  apply isAlpha_of_mem_word
  exact List.mem_append_left ["clear", "empty", "reset"] hword

theorem Address.not_contains_lowerChars {pre : List Char} {day : String} {zone : Zone}
    (h : Address pre day zone) (rest : List Char) :
    ¬generateWords.contains (String.ofList (lowerChars (pre ++ rest))) = true := by
  rw [contains_lowerChars_iff]
  rintro ⟨word, hword, hcs⟩
  -- The text has a dash in it, which is not a letter of a word.
  have halpha := isAlpha_of_lowerAscii hcs fun c hc =>
    (isAlpha_of_mem_word (List.mem_append_left ["clear", "empty", "reset"] hword) c hc).1
  apply dash_not_mem_of_isAlpha halpha
  cases h with
  | intro => simp

theorem isAlpha_of_clears {action : List Char} {word : String} (hword : word ∈ clearWords)
    (h : lowerAscii action = word.toList) : ∀ c ∈ action, c.isAlpha = true :=
  isAlpha_of_lowerAscii h fun c hc =>
    (isAlpha_of_mem_word (List.mem_append_right ["generate", "gen"] hword) c hc).1

theorem ofChars?_of_spelled {cs : List Char} {cmd : Command} (h : Spelled (trimChars cs) cmd) :
    ofChars? cs = some cmd := by
  have htrimmed := trimmed_trimChars cs
  unfold ofChars?
  generalize trimChars cs = t at h htrimmed
  dsimp only
  cases h with
  | generate hword hcs =>
    rw [if_pos (contains_lowerChars_iff.mpr ⟨_, hword, hcs⟩)]
  | clear hpre hword haction =>
    have halpha := isAlpha_of_clears hword haction
    rw [if_neg (hpre.not_contains_lowerChars _), splitFirstBlank_of_not_blank]
    . apply ofHead?_eq_some_iff.mpr
      refine ⟨_, _, _, _, rfl, hpre, dash_not_mem_of_isAlpha halpha, ?_⟩
      exact ofAction?_none_eq_some_iff.mpr ⟨⟨_, hword, haction⟩, rfl⟩
    . rw [List.forall_mem_append]
      exact ⟨hpre.not_blank, fun c hc => isBlank_of_isAlpha (halpha c hc)⟩
  | @set pre rest day value zone kind letter blank hpre hletter hblank hvalue hline =>
    have halpha : ∀ c ∈ [letter], c.isAlpha = true := by
      simpa using SlotKind.isAlpha_of_mem_letters hletter
    have hhead : ∀ c ∈ pre ++ [letter], isBlank c = false := by
      rw [List.forall_mem_append]
      exact ⟨hpre.not_blank, fun c hc => isBlank_of_isAlpha (halpha c hc)⟩
    -- The head has no blank in it, so the text is split right behind the letter.
    rw [List.append_cons] at htrimmed
    rw [if_neg (hpre.not_contains_lowerChars _), List.append_cons,
      splitFirstBlank_append hhead hblank]
    dsimp only
    rw [Option.map_some, ← hvalue, if_neg (by simpa using hline)]
    apply ofHead?_eq_some_iff.mpr
    refine ⟨_, _, _, _, rfl, hpre, dash_not_mem_of_isAlpha halpha, ?_⟩
    apply ofAction?_some_eq_some_iff.mpr
    rw [hvalue]
    refine ⟨trimChars_ne_nil_of_trimmed htrimmed hblank, kind, letter, hletter, rfl, ?_⟩
    rw [← hvalue, String.ofList_toList]

theorem spelled_of_ofChars? {cs : List Char} {cmd : Command} (h : ofChars? cs = some cmd) :
    Spelled (trimChars cs) cmd := by
  unfold ofChars? at h
  dsimp only at h
  split at h
  . next hgenerate =>
    cases h
    obtain ⟨word, hword, hcs⟩ := contains_lowerChars_iff.mp hgenerate
    exact .generate hword hcs
  . split at h
    . cases h
    . next hline =>
      obtain ⟨pre, action, day, zone, hhead, hpre, -, hcmd⟩ := ofHead?_eq_some_iff.mp h
      rcases splitFirstBlank_cases (trimChars cs) with
        ⟨-, hsplit⟩ | ⟨head, blank, rest, ht, -, hblank, hsplit⟩
      . -- Without a blank there is no value, so the action has to clear the slot.
        rw [hsplit] at hhead hcmd
        obtain ⟨⟨word, hword, haction⟩, rfl⟩ := ofAction?_none_eq_some_iff.mp hcmd
        dsimp only at hhead
        rw [hhead]
        exact .clear hpre hword haction
      . rw [hsplit] at hhead hcmd hline
        obtain ⟨-, kind, letter, hletter, rfl, rfl⟩ := ofAction?_some_eq_some_iff.mp hcmd
        dsimp only at hhead
        rw [ht, hhead, List.append_assoc]
        apply Spelled.set hpre hletter hblank
        . simp
        . simpa using hline

theorem parse?_eq_some_iff {s : String} {cmd : Command} :
    parse? s = some cmd ↔ Spelled (trimChars s.toList) cmd :=
  ⟨spelled_of_ofChars?, ofChars?_of_spelled⟩

theorem Spelled.wellFormed {cs : List Char} {cmd : Command} (h : Spelled cs cmd)
    (htrimmed : Trimmed cs) : cmd.WellFormed := by
  cases h with
  | generate => exact .generate
  | clear hpre =>
    cases hpre with
    | intro hday => exact .clear hday
  | @set pre rest day value zone kind letter blank hpre hletter hblank hvalue hline =>
    have hempty : value ≠ "" := by
      -- Otherwise the text would end in a blank.
      rw [List.append_cons] at htrimmed
      rw [ne_eq, ← String.toList_eq_nil_iff, hvalue]
      exact trimChars_ne_nil_of_trimmed htrimmed hblank
    have htrim : trim value = value := by
      rw [trim_eq_self_iff, hvalue, trimChars_trimChars]
    cases hpre with
    | intro hday => exact .set hday hempty htrim hline

def value? : Command → Option String
  | .generate => none
  | .clear _ _ => none
  | .set _ _ _ value => some value

theorem value?_ne_of_parse? {s : String} {cmd : Command} (h : parse? s = some cmd) :
    cmd.value? ≠ some "" := by
  cases (parse?_eq_some_iff.mp h).wellFormed (trimmed_trimChars _) with
  | generate => simp [value?]
  | clear => simp [value?]
  | set hday hvalue => simpa [value?] using hvalue

theorem toList_head (day : String) (zone : Zone) (action : String) :
    (head day zone action).toList = (head day zone "").toList ++ action.toList := by
  simp [head]

theorem address_head {day : String} (h : DayName day) (zone : Zone) :
    Address (head day zone "").toList day zone := by
  cases zone with
  | upper =>
    have hpre : (head day .upper "").toList = day.toList ++ ['-', 'u', '-'] := by
      simp [head, Zone.token]
    rw [hpre]
    exact .intro h (by decide)
  | lower =>
    have hpre : (head day .lower "").toList = day.toList ++ ['-', 'l', '-'] := by
      simp [head, Zone.token]
    rw [hpre]
    exact .intro h (by decide)

theorem setHead_head {day : String} (h : DayName day) (zone : Zone) (kind : SlotKind) :
    SetHead (head day zone kind.token) day zone kind := by
  obtain ⟨letter, hletter, htoken⟩ := (kind.lowerAscii_eq_token_iff kind.token.toList).mp
    (by cases kind <;> decide)
  have hhead : head day zone kind.token =
      String.ofList ((head day zone "").toList ++ [letter]) := by
    rw [← String.toList_inj, toList_head, htoken, String.toList_ofList]
  rw [hhead]
  exact .intro (address_head h zone) hletter

theorem SetHead.toList_append (h value : String) :
    (h ++ " " ++ value).toList = h.toList ++ ' ' :: value.toList := by
  simp

theorem SetHead.parse?_append {h day value : String} {zone : Zone} {kind : SlotKind}
    (hh : SetHead h day zone kind) (hvalue : value ≠ "") (htrim : trim value = value)
    (hline : '\n' ∉ value.toList ∧ '\r' ∉ value.toList) :
    parse? (h ++ " " ++ value) = some (.set day zone kind value) := by
  rw [trim_eq_self_iff] at htrim
  have htrimmed : Trimmed (h.toList ++ ' ' :: value.toList) := by
    rw [List.append_cons]
    apply trimmed_append
    . simp
    . simpa using hvalue
    . intro c hc
      rw [List.head?_append_of_ne_nil _ hh.ne_nil] at hc
      exact hh.not_blank c (List.mem_of_mem_head? hc)
    . rw [← htrim]
      exact (trimmed_trimChars value.toList).2
  rw [parse?_eq_some_iff, toList_append, trimChars_eq_self htrimmed]
  cases hh with
  | intro hpre hletter =>
    rw [String.toList_ofList, List.append_assoc]
    exact .set hpre hletter (by decide) htrim.symm hline

theorem parse?_head_clear {day : String} (h : DayName day) (zone : Zone) :
    parse? (head day zone "clear") = some (.clear day zone) := by
  have hpre := address_head h zone
  rw [parse?_eq_some_iff, toList_head, trimChars_eq_self]
  . exact .clear hpre List.mem_cons_self (by decide)
  . apply trimmed_of_not_blank
    rw [List.forall_mem_append]
    exact ⟨hpre.not_blank, isBlank_of_mem_word (by decide)⟩

theorem parse?_print {cmd : Command} (h : cmd.WellFormed) : parse? cmd.print = some cmd := by
  cases h with
  | generate => decide +kernel
  | clear hday => exact parse?_head_clear hday _
  | set hday hvalue htrim hline =>
    exact (setHead_head hday _ _).parse?_append hvalue htrim hline

theorem parse?_exact (s : String) :
    (∀ cmd, parse? s = some cmd ↔ Spelled (trimChars s.toList) cmd) ∧
      (parse? s = none ↔ ¬∃ cmd, Spelled (trimChars s.toList) cmd) ∧
      (∀ cmd, parse? s = some cmd → cmd.WellFormed ∧ parse? cmd.print = some cmd) := by
  refine ⟨fun cmd => parse?_eq_some_iff, ?_, ?_⟩
  . simp only [← parse?_eq_some_iff]
    cases parse? s <;> simp
  . intro cmd h
    have hwell := (parse?_eq_some_iff.mp h).wellFormed (trimmed_trimChars _)
    exact ⟨hwell, parse?_print hwell⟩

end Command
end WeekMenu

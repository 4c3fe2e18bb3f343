import Mathlib.Data.List.Nodup
import WeekMenu.KeyMap
import WeekMenu.Proofs.Lookup

/-!
This module contains what the keys of the normal mode do: a key that the user names has an action
that the user gives it, and every other key its built-in one. Several texts can name the same key.
If they give it different actions, the one that comes last wins, so that the action depends on an
order that the settings do not have.
-/

namespace WeekMenu

namespace Chord

/--
The form in which chords are compared. A capital comes with shift, and shift makes a letter a
capital. Only the letters of ASCII are meant.
-/
def folded (chord : Chord) : Chord :=
  match chord.code with
  | .char c =>
    if c.isUpper then { chord with mods := { chord.mods with shift := true } }
    else if chord.mods.shift then { chord with code := .char c.toUpper }
    else chord
  | _ => chord

def Shiftless (chord : Chord) : Prop :=
  ∀ c, chord.code = .char c → chord.mods.shift = false

theorem shiftless_plain (code : KeyCode) : (plain code).Shiftless :=
  fun _ _ => rfl

theorem shiftless_ofKey (key : Key) : (ofKey key).Shiftless := by
  obtain ⟨code, mods, motion⟩ := key
  cases code with
  | char c => exact fun _ _ => rfl
  | _ => exact nofun

theorem shiftless_of_parse? {spec : String} {chord : Chord} (h : parse? spec = some chord) :
    chord.Shiftless := by
  unfold parse? at h
  dsimp only at h
  split at h
  . obtain ⟨code, _, rfl⟩ := Option.map_eq_some_iff.mp h
    exact fun _ _ => rfl
  . obtain ⟨code, _, rfl⟩ := Option.map_eq_some_iff.mp h
    exact shiftless_plain code

theorem folded_of_shiftless {chord : Chord} (h : chord.Shiftless) :
    ∃ shift, chord.folded = ⟨chord.code, { chord.mods with shift }⟩ := by
  unfold folded
  split
  . next c hc =>
    split
    . exact ⟨true, rfl⟩
    . rw [if_neg (by simp [h c hc])]
      exact ⟨chord.mods.shift, rfl⟩
  . exact ⟨chord.mods.shift, rfl⟩

theorem folded_of_not_char {chord : Chord} (h : ¬∃ c, chord.code = .char c) :
    chord.folded = chord := by
  unfold folded
  split
  . next c hc => exact absurd ⟨c, hc⟩ h
  . rfl

theorem folded_inj {a b : Chord} (ha : a.Shiftless) (hb : b.Shiftless) :
    a.folded = b.folded ↔ a = b := by
  refine ⟨?_, congrArg folded⟩
  intro h
  obtain ⟨_, hfolded⟩ := folded_of_shiftless ha
  obtain ⟨_, hfolded'⟩ := folded_of_shiftless hb
  obtain ⟨hcode, hmods⟩ := Chord.mk.inj ((hfolded.symm.trans h).trans hfolded')
  obtain ⟨hcontrol, halt, _⟩ := Modifiers.mk.inj hmods
  have hshift : a.mods.shift = b.mods.shift := by
    by_cases hchar : ∃ c, a.code = .char c
    . obtain ⟨c, hc⟩ := hchar
      rw [ha c hc, hb c (hcode.symm.trans hc)]
    . rw [folded_of_not_char hchar, folded_of_not_char (hcode ▸ hchar)] at h
      rw [h]
  change (⟨a.code, a.mods.control, a.mods.alt, a.mods.shift⟩ : Chord) = _
  rw [hcode, hcontrol, halt, hshift]

end Chord

namespace KeyMap

def binding? (binding : String × String) : Option (Chord × Action) :=
  match Chord.parse? binding.1, Action.byName.lookup binding.2 with
  | some chord, some action => some (chord, action)
  | _, _ => none

/--
The binding gives an action to a key: its first text names the key, which is compared without the
shift of a character, and its second text names the action.
-/
def Gives (binding : String × String) (key : Key) (action : Action) : Prop :=
  (∃ chord, Chord.parse? binding.1 = some chord ∧ chord.folded = (Chord.ofKey key).folded) ∧
    Action.byName.lookup binding.2 = some action

theorem gives_iff {binding : String × String} {key : Key} {action : Action} :
    Gives binding key action ↔ binding? binding = some (.ofKey key, action) := by
  unfold Gives binding?
  constructor
  . rintro ⟨⟨chord, hchord, hfolded⟩, haction⟩
    have heq := (Chord.folded_inj (Chord.shiftless_of_parse? hchord)
      (Chord.shiftless_ofKey key)).mp hfolded
    rw [hchord, haction, heq]
  . intro h
    split at h
    . next hchord haction =>
      cases h
      exact ⟨⟨_, hchord, rfl⟩, haction⟩
    . cases h

theorem bindCustom_eq (m : KeyMap) (binding : String × String) :
    m.bindCustom binding = ⟨(binding? binding).toList.foldl replaceEntry m.bindings⟩ := by
  unfold bindCustom binding?
  cases Chord.parse? binding.1 with
  | none => rfl
  | some chord =>
    cases Action.byName.lookup binding.2 with
    | none => rfl
    | some action => rfl

theorem foldl_bindCustom (m : KeyMap) (order : List (String × String)) :
    (order.foldl bindCustom m).bindings =
      (order.filterMap binding?).foldl replaceEntry m.bindings := by
  induction order generalizing m with
  | nil => rfl
  | cons binding order ih =>
    rw [List.foldl_cons, ih, bindCustom_eq, List.filterMap_cons]
    cases binding? binding with
    | none => rfl
    | some entry => rfl

theorem foldl_bind (m : KeyMap) (keys : List (KeyCode × Action)) :
    (keys.foldl (fun m (code, action) => m.bind (.plain code) action) m).bindings =
      (keys.map fun k => (Chord.plain k.1, k.2)).foldl replaceEntry m.bindings := by
  induction keys generalizing m with
  | nil => rfl
  | cons k keys ih => exact ih _

theorem mem_builtIn_iff {profile : String} {k : KeyCode × Action} :
    k ∈ shared ++ ofProfile profile ↔ k ∈ shared ∨ profile = "vim" ∧ k ∈ ofProfile "vim" := by
  rw [List.mem_append]
  by_cases hprofile : profile = "vim"
  . simp [hprofile]
  . simp [ofProfile, hprofile]

theorem nodup_builtIn (profile : String) :
    ((shared ++ ofProfile profile).map Prod.fst).Nodup := by
  unfold ofProfile
  split
  . decide
  . decide

theorem action?_builtIn_iff {profile : String} {key : Key} {action : Action} :
    (builtIn profile).action? key = some action ↔
      ∃ code, ((code, action) ∈ shared ∨ profile = "vim" ∧ (code, action) ∈ ofProfile "vim") ∧
        (Chord.plain code).folded = (Chord.ofKey key).folded := by
  have hkeys : ∀ code, (Chord.plain code).folded = (Chord.ofKey key).folded ↔
      Chord.plain code = Chord.ofKey key := fun code =>
    Chord.folded_inj (Chord.shiftless_plain code) (Chord.shiftless_ofKey key)
  unfold action? builtIn
  rw [foldl_bind, lookup_puts_iff]
  . simp only [hkeys, ← mem_builtIn_iff, List.mem_map, Prod.mk.injEq, Prod.exists]
    constructor
    . rintro ⟨code, _, hmem, hcode, rfl⟩
      exact ⟨code, hmem, hcode⟩
    . rintro ⟨code, hmem, hcode⟩
      exact ⟨code, action, hmem, hcode, rfl⟩
  . rintro action' hmem hmem'
    simp only [List.mem_map, Prod.mk.injEq] at hmem hmem'
    obtain ⟨k, hk, hchord, rfl⟩ := hmem
    obtain ⟨k', hk', hchord', rfl⟩ := hmem'
    have hcode : k'.1 = k.1 := congrArg Chord.code (hchord'.trans hchord.symm)
    rw [List.inj_on_of_nodup_map (nodup_builtIn profile) hk' hk hcode]

variable {profile : String} {custom order : List (String × String)} {key : Key} {action : Action}

theorem action?_ofConfig_cases (profile : String) (custom : List (String × String)) (key : Key) :
    (∃ binding ∈ custom, ∃ action, Gives binding key action ∧
      (ofConfig ⟨profile, some custom⟩).action? key = some action) ∨
    ((∀ binding ∈ custom, ∀ action, ¬Gives binding key action) ∧
      (ofConfig ⟨profile, some custom⟩).action? key = (builtIn profile).action? key) := by
  unfold action? ofConfig
  rw [Option.getD_some, foldl_bindCustom]
  simp only [gives_iff]
  obtain ⟨action, hmem, haction⟩ | ⟨hnone, hkept⟩ := lookup_foldl_replaceEntry
    (builtIn profile).bindings (custom.filterMap binding?) (.ofKey key)
  . obtain ⟨binding, hbinding, hgives⟩ := List.mem_filterMap.mp hmem
    exact Or.inl ⟨binding, hbinding, action, hgives, haction⟩
  . refine Or.inr ⟨?_, hkept⟩
    intro binding hbinding action hgives
    exact hnone action (List.mem_filterMap.mpr ⟨binding, hbinding, hgives⟩)

theorem action?_ofConfig_concat {binding : String × String} (h : Gives binding key action) :
    (ofConfig ⟨profile, some (order ++ [binding])⟩).action? key = some action := by
  unfold action? ofConfig
  rw [Option.getD_some, foldl_bindCustom, List.filterMap_append, List.foldl_append]
  rw [List.filterMap_cons, gives_iff.mp h]
  exact lookup_replaceEntry_self _ _

def isValid (binding : String × String) : Bool :=
  (Chord.parse? binding.1).isSome && (Action.byName.lookup binding.2).isSome

theorem isSome_binding? (binding : String × String) :
    (binding? binding).isSome = isValid binding := by
  unfold binding? isValid
  cases Chord.parse? binding.1 with
  | none => rfl
  | some chord =>
    cases Action.byName.lookup binding.2 with
    | none => rfl
    | some action => rfl

theorem ofConfig_filter_isValid (profile : String) (order : List (String × String)) :
    ofConfig ⟨profile, some (order.filter isValid)⟩ = ofConfig ⟨profile, some order⟩ := by
  have hmeant : (order.filter isValid).filterMap binding? = order.filterMap binding? := by
    rw [List.filterMap_filter]
    apply List.filterMap_congr
    intro binding _
    split
    . rfl
    . next hvalid =>
      rw [← isSome_binding?, Option.not_isSome_iff_eq_none] at hvalid
      exact hvalid.symm
  apply congrArg KeyMap.mk
  rw [Option.getD_some, Option.getD_some, foldl_bindCustom, foldl_bindCustom, hmeant]

def GivesOnly (custom : List (String × String)) (key : Key) (action : Action) : Prop :=
  ∀ binding ∈ custom, ∀ action', Gives binding key action' → action' = action

theorem GivesOnly.action? (h : GivesOnly custom key action) {binding : String × String}
    (hmem : binding ∈ custom) (hgives : Gives binding key action) (horder : order.Perm custom) :
    (ofConfig ⟨profile, some order⟩).action? key = some action := by
  obtain ⟨other, hother, action', hgives', haction⟩ | ⟨hnone, _⟩ :=
    action?_ofConfig_cases profile order key
  . rw [haction, h other (horder.mem_iff.mp hother) action' hgives']
  . exact absurd hgives (hnone binding (horder.mem_iff.mpr hmem) action)

theorem exists_order_action? {binding : String × String} (hmem : binding ∈ custom)
    (hgives : Gives binding key action) (profile : String) :
    ∃ order, order.Perm custom ∧
      (ofConfig ⟨profile, some order⟩).action? key = some action := by
  refine ⟨custom.erase binding ++ [binding], ?_, action?_ofConfig_concat hgives⟩
  exact (List.perm_append_singleton _ _).trans (List.perm_cons_erase hmem).symm

theorem forall_order_action?_iff {binding : String × String} (hmem : binding ∈ custom)
    (hgives : Gives binding key action) (profile : String) :
    (∀ order, order.Perm custom →
      (ofConfig ⟨profile, some order⟩).action? key = some action) ↔
      GivesOnly custom key action := by
  constructor
  . intro h other hother action' hgives'
    obtain ⟨order, horder, haction⟩ := exists_order_action? hother hgives' profile
    rw [h order horder] at haction
    exact (Option.some.inj haction).symm
  . intro h order horder
    exact h.action? hmem hgives horder

theorem action?_perm
    (h : ∀ binding ∈ custom, ∀ action, Gives binding key action → GivesOnly custom key action)
    (horder : order.Perm custom) :
    (ofConfig ⟨profile, some order⟩).action? key =
      (ofConfig ⟨profile, some custom⟩).action? key := by
  obtain ⟨binding, hmem, action, hgives, haction⟩ | ⟨hnone, hkept⟩ :=
    action?_ofConfig_cases profile custom key
  . rw [haction]
    exact (h binding hmem action hgives).action? hmem hgives horder
  . obtain ⟨binding, hmem, action, hgives, _⟩ | ⟨_, hkept'⟩ :=
      action?_ofConfig_cases profile order key
    . exact absurd hgives (hnone binding (horder.mem_iff.mp hmem) action)
    . exact hkept'.trans hkept.symm

theorem action?_order_iff (config : KeyConfig) :
    let custom := config.custom.getD []
    let under (order : List (String × String)) := ofConfig ⟨config.profile, some order⟩
    ofConfig config = under custom ∧
    ((∀ order order', order.Perm custom → order'.Perm custom → ∀ key,
      (under order).action? key = (under order').action? key)
      ↔
    ∀ key, ∀ binding ∈ custom, ∀ action, Gives binding key action →
      GivesOnly custom key action) ∧
    (∀ key, ∀ binding ∈ custom, ∀ action, Gives binding key action →
      ((∀ order, order.Perm custom → (under order).action? key = some action)
        ↔
      GivesOnly custom key action)) ∧
    (∀ order, order.Perm custom → ∀ key,
      (∃ binding ∈ custom, ∃ action, Gives binding key action ∧
        (under order).action? key = some action) ∨
      ((∀ binding ∈ custom, ∀ action, ¬Gives binding key action) ∧
        (under order).action? key = (builtIn config.profile).action? key)) ∧
    (∀ order, under (order.filter isValid) = under order) ∧
    ∀ key action, (builtIn config.profile).action? key = some action ↔
      ∃ code, ((code, action) ∈ shared ∨
          config.profile = "vim" ∧ (code, action) ∈ ofProfile "vim") ∧
        (Chord.plain code).folded = (Chord.ofKey key).folded := by
  intro custom under
  refine ⟨rfl, ?_, ?_, ?_, ofConfig_filter_isValid config.profile, fun _ _ => action?_builtIn_iff⟩
  . constructor
    . intro h key binding hmem action hgives
      apply (forall_order_action?_iff hmem hgives config.profile).mp
      obtain ⟨first, hfirst, haction⟩ := exists_order_action? hmem hgives config.profile
      intro order horder
      exact (h order first horder hfirst key).trans haction
    . intro h order order' horder horder' key
      exact (action?_perm (h key) horder).trans (action?_perm (h key) horder').symm
  . intro key binding hmem action hgives
    exact forall_order_action?_iff hmem hgives config.profile
  . intro order horder key
    have hcases := action?_ofConfig_cases config.profile order key
    simpa only [horder.mem_iff] using hcases

theorem ofConfig_order_matters :
    let help := ("F2", "help")
    let quit := ("f2", "quit")
    let key : Key := .plain (.function 2)
    [help, quit].Perm [quit, help] ∧
    (ofConfig ⟨"vim", some [help, quit]⟩).action? key = some .quit ∧
    (ofConfig ⟨"vim", some [quit, help]⟩).action? key = some .toggleHelp := by
  intro help quit key
  have hhelp : Gives help key .toggleHelp :=
    ⟨⟨.plain (.function 2), by decide +kernel, rfl⟩, rfl⟩
  have hquit : Gives quit key .quit :=
    ⟨⟨.plain (.function 2), by decide +kernel, rfl⟩, rfl⟩
  have hlast : ∀ first, (ofConfig ⟨"vim", some ([first] ++ [quit])⟩).action? key = some .quit :=
    fun _ => action?_ofConfig_concat hquit
  have hlast' : ∀ first,
      (ofConfig ⟨"vim", some ([first] ++ [help])⟩).action? key = some .toggleHelp :=
    fun _ => action?_ofConfig_concat hhelp
  exact ⟨List.Perm.swap _ _ _, hlast help, hlast' quit⟩

end KeyMap
end WeekMenu

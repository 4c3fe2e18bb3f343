import WeekMenu.Ingredients
import WeekMenu.Proofs.Catalog.Lookup
import WeekMenu.Proofs.Text.Fold

/-!
This module contains what is found by a text that stands in a name literally. The name and the text
are folded apart from each other, so the text is found in every name around it only if what stands
next to it makes no difference to its folding.
-/

namespace WeekMenu

def FoundInCatalogs (text : String) : Prop :=
  ∀ c : Catalog, ∀ m ∈ c.meals, text.toList <:+: m.name.toList →
    m ∈ c.search text ∧ c.lookup text ≠ .notFound

/--
In every table of ingredients with the text in the name of a row, the text finds one of the rows, or
the row for every pizza.
-/
def FoundInTables (text : String) : Prop :=
  ∀ t : IngredientTable, ∀ r ∈ t.rows, text.toList <:+: r.name.toList →
    t.find text = .pizza ∨ t.find text ∈ t.rows

theorem foundInCatalogs_iff (text : String) : FoundInCatalogs text ↔ Text.Firm text.toList := by
  rw [Text.firm_iff]
  constructor
  . intro h name hname
    let m : Meal := ⟨String.ofList name, ""⟩
    have hm := (h ⟨[m]⟩ m (List.mem_singleton_self m) (by rwa [String.toList_ofList])).1
    have hmentions := Catalog.mentions_iff.mp (List.mem_filter.mp hm).2
    simpa [Text.lower, m] using hmentions
  . intro h c m hm hfound
    have hmem : m ∈ c.search text := by
      unfold Catalog.search
      rw [List.mem_filter, Catalog.mentions_iff]
      refine ⟨hm, ?_⟩
      simpa [Text.lower] using h m.name.toList hfound
    refine ⟨hmem, ?_⟩
    rw [Ne, Catalog.lookup_eq_notFound_iff]
    exact List.ne_nil_of_mem hmem

namespace IngredientTable

theorem find_eq_pizza {text : String} (h : Text.lower text = "pizza") (t : IngredientTable) :
    t.find text = .pizza := by
  simp [find, h]

theorem find_eq_getD {text : String} (h : Text.lower text ≠ "pizza") (t : IngredientTable) :
    t.find text
      =
    (t.rows.find? fun r => Text.occursIn (Text.fold text).toList (Text.fold r.name).toList).getD
      (.missing text) := by
  simp [find, h]

theorem find_mem_of_infix {text : String} (h : Text.lower text ≠ "pizza") {t : IngredientTable}
    {r : IngredientRow} (hr : r ∈ t.rows)
    (hfound : (Text.fold text).toList <:+: (Text.fold r.name).toList) : t.find text ∈ t.rows := by
  rw [find_eq_getD h]
  cases hfind : t.rows.find? _ with
  | none =>
    rw [List.find?_eq_none] at hfind
    exact absurd (Text.occursIn_iff_infix.mpr hfound) (hfind r hr)
  | some k => exact List.mem_of_find?_eq_some hfind

theorem infix_of_find_singleton {text : String} (h : Text.lower text ≠ "pizza")
    {r : IngredientRow} (hr : r.french ≠ "")
    (hfind : find ⟨[r]⟩ text = .pizza ∨ find ⟨[r]⟩ text ∈ [r]) :
    (Text.fold text).toList <:+: (Text.fold r.name).toList := by
  by_contra hfound
  rw [← Text.occursIn_iff_infix, Bool.not_eq_true] at hfound
  have hmissing : find ⟨[r]⟩ text = .missing text := by
    rw [find_eq_getD h]
    simp [hfound]
  rw [hmissing, List.mem_singleton] at hfind
  rcases hfind with hpizza | rfl
  . have hfrench := congrArg IngredientRow.french hpizza
    simp [IngredientRow.missing, IngredientRow.pizza] at hfrench
  . exact hr rfl

end IngredientTable

theorem ascii_of_lower_eq_pizza {text : String} (h : Text.lower text = "pizza") :
    ∀ c ∈ text.toList, c.toNat < 0x80 := by
  have hletters : ∀ c ∈ "pizza".toList, c.isAlpha = true ∧ c ≠ 'k' := by
    simp
  have hchars : Text.lowerChars text.toList = "pizza".toList := by
    rw [← h, Text.lower, String.toList_ofList]
  rw [Text.lowerChars_eq_iff hletters] at hchars
  intro c hc
  exact Text.toNat_lt_of_isAlpha
    (Text.isAlpha_of_lowerAscii hchars (fun c hc => (hletters c hc).1) c hc)

theorem foundInTables_of_sealed {text : String} (h : Text.Sealed text.toList) :
    FoundInTables text := by
  intro t r hr hfound
  by_cases hpizza : Text.lower text = "pizza"
  . exact Or.inl (t.find_eq_pizza hpizza)
  . right
    apply t.find_mem_of_infix hpizza hr
    simpa [Text.fold] using h.infix_foldChars hfound

theorem sealed_of_foundInTables {text : String}
    (hbase : ∃ c ∈ (Text.fold text).toList, Text.Decompose.markClass c = 0)
    (h : FoundInTables text) : Text.Sealed text.toList := by
  by_cases hpizza : Text.lower text = "pizza"
  . exact Text.sealed_of_ascii (ascii_of_lower_eq_pizza hpizza)
  . rw [Text.sealed_iff (by simpa [Text.fold] using hbase)]
    intro name hname
    let r : IngredientRow := ⟨String.ofList name, "oui", "yes"⟩
    have hfind := h ⟨[r]⟩ r (List.mem_singleton_self r) (by rwa [String.toList_ofList])
    have hfound := IngredientTable.infix_of_find_singleton hpizza (r := r) (by simp [r]) hfind
    simpa [Text.fold, r] using hfound

/--
What a text finds wherever it stands in a name literally. In catalogs it finds every such meal
exactly if it is firm. In tables of ingredients it finds a row if it is sealed and, unless its
folding is marks alone, only then.
-/
theorem found_iff (text : String) :
    (FoundInCatalogs text ↔ Text.Firm text.toList) ∧
    (Text.Sealed text.toList → FoundInTables text) ∧
    ((∃ c ∈ (Text.fold text).toList, Text.Decompose.markClass c = 0) →
      FoundInTables text → Text.Sealed text.toList) :=
  ⟨foundInCatalogs_iff text, foundInTables_of_sealed, sealed_of_foundInTables⟩

theorem not_found_of_final_sigma :
    let text := "ΜΟΥΣ"
    let m : Meal := ⟨"ΜΟΥΣΑΚΑΣ", "moussaka.png"⟩
    let r : IngredientRow := ⟨"ΜΟΥΣΑΚΑΣ", "aubergine, agneau", "aubergine, lamb"⟩
    text.toList <:+: m.name.toList ∧ text.toList <:+: r.name.toList ∧
    Catalog.search ⟨[m]⟩ text = [] ∧ Catalog.lookup ⟨[m]⟩ text = .notFound ∧
    IngredientTable.find ⟨[r]⟩ text = .missing text := by
  decide +kernel

end WeekMenu

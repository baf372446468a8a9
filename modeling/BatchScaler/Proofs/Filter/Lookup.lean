import BatchScaler.Proofs.Filter.Resolution
import BatchScaler.Proofs.Text.Upper

namespace BatchScaler

namespace Registry

variable {κ : Type} {filters : List (NamedFilter κ)} {f : NamedFilter κ} {name : String}

theorem first?_eq_some_iff :
    first? filters name = some f ↔ ∃ before after, filters = before ++ f :: after ∧
      Text.upper f.name = Text.upper name ∧ ∀ g ∈ before, Text.upper g.name ≠ Text.upper name := by
  unfold first?
  rw [List.find?_eq_some_iff_append]
  simp only [decide_eq_true_eq, Bool.not_eq_true', decide_eq_false_iff_not]
  constructor
  · rintro ⟨hname, before, after, rfl, hbefore⟩
    exact ⟨before, after, rfl, hname, hbefore⟩
  · rintro ⟨before, after, rfl, hname, hbefore⟩
    exact ⟨hname, before, after, rfl, hbefore⟩

theorem first?_eq_none_iff :
    first? filters name = none ↔ ∀ g ∈ filters, Text.upper g.name ≠ Text.upper name := by
  simp only [first?, List.find?_eq_none, decide_eq_true_eq, ne_eq]

theorem first?_append (filters more : List (NamedFilter κ)) (name : String) :
    first? (filters ++ more) name = (first? filters name).or (first? more name) :=
  List.find?_append

theorem exists_first?_of_getElem? {i : Nat} (h : filters[i]? = some f) :
    ∃ j g, j ≤ i ∧ filters[j]? = some g ∧ Text.upper g.name = Text.upper f.name ∧
      first? filters f.name = some g := by
  cases hfirst : first? filters f.name with
  | none => exact absurd rfl (first?_eq_none_iff.1 hfirst f (List.mem_of_getElem? h))
  | some g =>
    obtain ⟨before, after, rfl, hname, hbefore⟩ := first?_eq_some_iff.1 hfirst
    refine ⟨before.length, g, ?_, by simp, hname, rfl⟩
    by_contra hlater
    rw [List.getElem?_append_left (Nat.not_le.1 hlater)] at h
    exact hbefore f (List.mem_of_getElem? h) rfl

theorem first?_congr {name' : String} (h : Text.upper name = Text.upper name') :
    first? filters name = first? filters name' := by
  rw [first?, first?, h]

/-- A name resolves to the first filter of the list that has it in upper case, so every registered
name resolves, the case of ASCII letters does not matter, and filters that are registered later
count only for names that were free. -/
theorem resolves_to_first (filters : List (NamedFilter κ)) (name : String) :
    (∀ f, (ofList filters).resolve name = some f ↔
      ∃ before after, filters = before ++ f :: after ∧ Text.upper f.name = Text.upper name ∧
        ∀ g ∈ before, Text.upper g.name ≠ Text.upper name) ∧
    ((ofList filters).resolve name = none ↔
      ∀ g ∈ filters, Text.upper g.name ≠ Text.upper name) ∧
    (∀ (i : Nat) listed, (ofList filters).names[i]? = some listed →
      ∃ j f, j ≤ i ∧ filters[j]? = some f ∧ Text.upper f.name = Text.upper listed ∧
        (ofList filters).resolve listed = some f) ∧
    (∀ name', Text.lowerAscii name = Text.lowerAscii name' →
      (ofList filters).resolve name = (ofList filters).resolve name') ∧
    (∀ more, (ofList (filters ++ more)).resolve name =
      ((ofList filters).resolve name).or ((ofList more).resolve name)) ∧
    ∀ more f, (ofList filters).resolve name = some f →
      (ofList (filters ++ more)).resolve name = some f := by
  simp only [resolve_ofList]
  refine ⟨fun f ↦ first?_eq_some_iff, first?_eq_none_iff, fun i listed hi ↦ ?_, fun name' h ↦ ?_,
    fun more ↦ first?_append filters more name, fun more f h ↦ ?_⟩
  · rw [names, List.getElem?_map, Option.map_eq_some_iff] at hi
    obtain ⟨f, hf, rfl⟩ := hi
    exact exists_first?_of_getElem? hf
  · exact first?_congr (Text.upper_eq_of_lowerAscii_eq h)
  · rw [first?_append, h, Option.some_or]

/-- A filter named with a sharp s takes the names that are spelled with a double one. -/
theorem resolves_to_first_sharp :
    (ofList [⟨"Maß", 0⟩, ⟨"MASS", 1⟩]).resolve "mass" = some ⟨"Maß", 0⟩ ∧
      (ofList ([⟨"Maß", 0⟩, ⟨"MASS", 1⟩] ++ [⟨"Mass", 2⟩])).resolve "mass" = some ⟨"Maß", 0⟩ := by
  have hlisted : (ofList [⟨"Maß", 0⟩, ⟨"MASS", 1⟩]).resolve "MASS" = some ⟨"Maß", 0⟩ := by
    decide +kernel
  obtain ⟨-, -, -, hcase, -, hmore⟩ := resolves_to_first [⟨"Maß", 0⟩, ⟨"MASS", 1⟩] "mass"
  have hfirst := (hcase "MASS" (by decide)).trans hlisted
  exact ⟨hfirst, hmore [⟨"Mass", 2⟩] _ hfirst⟩

end Registry

end BatchScaler

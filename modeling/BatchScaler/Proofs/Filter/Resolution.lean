import BatchScaler.Filter.Registry

namespace BatchScaler

namespace Registry

variable {κ : Type}

def first? (filters : List (NamedFilter κ)) (name : String) : Option (NamedFilter κ) :=
  filters.find? fun f ↦ Text.upper f.name = Text.upper name

theorem lookup_enter (table : List (String × NamedFilter κ)) (f : NamedFilter κ) (key : String) :
    (enter table f).lookup key =
      (table.lookup key).or (if Text.upper f.name = key then some f else none) := by
  unfold enter
  by_cases hkey : Text.upper f.name = key
  · subst hkey
    cases h : table.lookup (Text.upper f.name) with
    | none => simp [List.lookup_append, h]
    | some g => simp [h]
  · have hne : (key == Text.upper f.name) = false := beq_eq_false_iff_ne.2 (Ne.symm hkey)
    have hentry : [(Text.upper f.name, f)].lookup key = none := by
      simp only [List.lookup_cons, hne, List.lookup_nil]
    split
    · simp [hkey]
    · rw [List.lookup_append, hentry, if_neg hkey]

/-- Filters entered one after the other: a name that was taken keeps what it stood for. -/
theorem lookup_foldl_enter (filters : List (NamedFilter κ)) (table : List (String × NamedFilter κ))
    (name : String) :
    (filters.foldl enter table).lookup (Text.upper name) =
      (table.lookup (Text.upper name)).or (first? filters name) := by
  induction filters generalizing table with
  | nil => simp [first?]
  | cons f filters ih =>
    rw [List.foldl_cons, ih, lookup_enter, Option.or_assoc]
    congr 1
    by_cases hf : Text.upper f.name = Text.upper name
    · simp [first?, hf]
    · simp [first?, hf]

theorem resolve_ofList (filters : List (NamedFilter κ)) (name : String) :
    (ofList filters).resolve name = first? filters name :=
  lookup_foldl_enter filters [] name

end Registry

end BatchScaler

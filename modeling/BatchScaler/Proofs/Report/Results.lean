import Mathlib.Data.List.Basic

namespace BatchScaler

variable {ε σ α β γ : Type}

theorem Except.bind_eq_ok_iff {x : Except ε α} {f : α → Except ε β} {b : β} :
    (x >>= f) = .ok b ↔ ∃ a, x = .ok a ∧ f a = .ok b := by
  cases x with
  | error e =>
    constructor
    · intro h
      cases h
    · rintro ⟨a, h, -⟩
      cases h
  | ok a =>
    constructor
    · intro h
      exact ⟨a, rfl, h⟩
    · rintro ⟨a', h, h'⟩
      cases h
      exact h'

theorem Except.bind_eq_error_iff {x : Except ε α} {f : α → Except ε β} {e : ε} :
    (x >>= f) = .error e ↔ x = .error e ∨ ∃ a, x = .ok a ∧ f a = .error e := by
  cases x with
  | error e' =>
    constructor
    · intro h
      cases h
      exact .inl rfl
    · rintro (h | ⟨a, h, -⟩)
      · cases h
        rfl
      · cases h
  | ok a =>
    constructor
    · intro h
      exact .inr ⟨a, rfl, h⟩
    · rintro (h | ⟨a', h, h'⟩)
      · cases h
      · cases h
        exact h'

theorem Except.map_eq_ok_iff {x : Except ε α} {f : α → β} {b : β} :
    x.map f = .ok b ↔ ∃ a, x = .ok a ∧ f a = b := by
  cases x with
  | error e => simp [Except.map]
  | ok a => simp [Except.map]

theorem Except.bind_eq_map {m : α → β} {x : Except ε γ} {f : γ → Except ε α} {f' : γ → Except ε β}
    (h : ∀ c, f' c = (f c).map m) : x >>= f' = (x >>= f).map m := by
  cases x with
  | error e => rfl
  | ok c => exact h c

theorem foldlM_cons_eq_ok_iff {f : σ → α → Except ε σ} {x : α} {xs : List α} {s s' : σ} :
    (x :: xs).foldlM f s = .ok s' ↔ ∃ s₁, f s x = .ok s₁ ∧ xs.foldlM f s₁ = .ok s' := by
  rw [List.foldlM_cons]
  exact Except.bind_eq_ok_iff

/-- A fold fails at one item, after others that went well. -/
theorem foldlM_eq_error_iff {f : σ → α → Except ε σ} {xs : List α} {s : σ} {e : ε} :
    xs.foldlM f s = .error e ↔
      ∃ done x rest s', xs = done ++ x :: rest ∧ done.foldlM f s = .ok s' ∧ f s' x = .error e := by
  induction xs generalizing s with
  | nil =>
    constructor
    · intro h
      cases h
    · rintro ⟨done, x, rest, s', h, -⟩
      simp at h
  | cons x xs ih =>
    rw [List.foldlM_cons, Except.bind_eq_error_iff]
    constructor
    · rintro (hx | ⟨s₁, hx, h⟩)
      · exact ⟨[], x, xs, s, rfl, rfl, hx⟩
      · obtain ⟨done, y, rest, s', rfl, hdone, hy⟩ := ih.1 h
        exact ⟨x :: done, y, rest, s', rfl, foldlM_cons_eq_ok_iff.2 ⟨s₁, hx, hdone⟩, hy⟩
    · rintro ⟨_ | ⟨z, done⟩, y, rest, s', hxs, hdone, hy⟩
      · obtain ⟨rfl, -⟩ := List.cons.inj hxs
        cases hdone
        exact .inl hy
      · obtain ⟨rfl, rfl⟩ := List.cons.inj hxs
        obtain ⟨s₁, hx, hdone⟩ := foldlM_cons_eq_ok_iff.1 hdone
        exact .inr ⟨s₁, hx, ih.2 ⟨done, y, rest, s', rfl, hdone, hy⟩⟩

end BatchScaler

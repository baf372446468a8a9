import Mathlib.Control.Monad.Basic
import BatchScaler.Report.Action

namespace BatchScaler

variable {ε δ σ α β : Type}

namespace Outcome

def map (f : α → β) (o : Outcome ε σ α) : Outcome ε σ β :=
  ⟨o.events, o.result.map f, o.state⟩

def after (o : Outcome ε σ α) (events : List ε) : Outcome ε σ α :=
  ⟨events ++ o.events, o.result, o.state⟩

def andThen (o : Outcome ε σ α) (f : α → Action ε σ β) : Outcome ε σ β :=
  match o with
  | ⟨events, .error fault, w⟩ => ⟨events, .error fault, w⟩
  | ⟨events, .ok x, w⟩ =>
    ((f x).run w).after events

@[simp] theorem events_after (o : Outcome ε σ α) (events : List ε) :
    (o.after events).events = events ++ o.events := rfl

@[simp] theorem result_after (o : Outcome ε σ α) (events : List ε) :
    (o.after events).result = o.result := rfl

@[simp] theorem state_after (o : Outcome ε σ α) (events : List ε) :
    (o.after events).state = o.state := rfl

@[simp] theorem after_mk (before events : List ε) (result : Except Fault α) (w : σ) :
    (⟨events, result, w⟩ : Outcome ε σ α).after before = ⟨before ++ events, result, w⟩ := rfl

theorem after_after (o : Outcome ε σ α) (xs ys : List ε) :
    (o.after xs).after ys = o.after (ys ++ xs) := by
  simp only [after, List.append_assoc]

theorem map_after (o : Outcome ε σ α) (events : List ε) (f : α → β) :
    (o.after events).map f = (o.map f).after events := rfl

@[simp] theorem andThen_error (events : List ε) (fault : Fault) (w : σ) (f : α → Action ε σ β) :
    (⟨events, .error fault, w⟩ : Outcome ε σ α).andThen f = ⟨events, .error fault, w⟩ := rfl

@[simp] theorem andThen_ok (events : List ε) (x : α) (w : σ) (f : α → Action ε σ β) :
    (⟨events, .ok x, w⟩ : Outcome ε σ α).andThen f = ((f x).run w).after events := rfl

def orElse (o : Outcome ε σ α) (handler : Fault → Action ε σ α) : Outcome ε σ α :=
  match o with
  | ⟨events, .ok x, w⟩ => ⟨events, .ok x, w⟩
  | ⟨events, .error fault, w⟩ => ((handler fault).run w).after events

@[simp] theorem orElse_ok (events : List ε) (x : α) (w : σ) (handler : Fault → Action ε σ α) :
    (⟨events, .ok x, w⟩ : Outcome ε σ α).orElse handler = ⟨events, .ok x, w⟩ := rfl

@[simp] theorem orElse_error (events : List ε) (fault : Fault) (w : σ)
    (handler : Fault → Action ε σ α) :
    (⟨events, .error fault, w⟩ : Outcome ε σ α).orElse handler =
      ((handler fault).run w).after events := rfl

end Outcome

namespace Action

theorem run_bind (a : Action ε σ α) (f : α → Action ε σ β) (w : σ) :
    (a >>= f).run w = (a.run w).andThen f := by
  rcases h : a.run w with ⟨events, fault | x, t⟩
  · rw [run_bind_error (by rw [h]), h]
    rfl
  · rw [run_bind_ok (x := x) (by rw [h]), h]
    rfl

theorem run_bind_pure (a : Action ε σ α) (g : α → β) (w : σ) :
    (a >>= fun x ↦ pure (g x)).run w = (a.run w).map g := by
  rw [run_bind]
  rcases a.run w with ⟨events, fault | x, t⟩
  · rfl
  · simp [Outcome.map, Except.map]

@[simp] theorem run_report (event : ε) (w : σ) :
    (report event : Action ε σ Unit).run w = ⟨[event], .ok (), w⟩ := rfl

@[simp] theorem run_ofExcept (result : Except Fault α) (w : σ) :
    (ofExcept result : Action ε σ α).run w = ⟨[], result, w⟩ := rfl

theorem result_ofExcept_bind (x : Except Fault α) (f : α → Action ε σ β) (w : σ) :
    ((ofExcept x >>= f).run w).result = x >>= fun a ↦ ((f a).run w).result := by
  rw [run_bind, run_ofExcept]
  cases x <;> rfl

theorem result_report_bind (event : ε) (f : Unit → Action ε σ β) (w : σ) :
    ((report event >>= f).run w).result = ((f ()).run w).result := by
  rw [run_bind, run_report]
  rfl

theorem run_recover (a : Action ε σ α) (handler : Fault → Action ε σ α) (w : σ) :
    (a.recover handler).run w = (a.run w).orElse handler := rfl

theorem run_thenReport (a : Action ε σ α) (event : ε) (w : σ) :
    (a.thenReport event).run w =
      ⟨(a.run w).events ++ [event], (a.run w).result, (a.run w).state⟩ := rfl

theorem run_mapEvents (f : ε → δ) (a : Action ε σ α) (w : σ) :
    (a.mapEvents f).run w = ⟨(a.run w).events.map f, (a.run w).result, (a.run w).state⟩ := rfl

@[ext] theorem ext {a b : Action ε σ α} (h : ∀ w, a.run w = b.run w) : a = b := funext h

def Yields (a : Action ε σ α) (w : σ) (x : α) (w' : σ) : Prop :=
  (a.run w).result = .ok x ∧ (a.run w).state = w'

theorem yields_pure {x y : α} {w w' : σ} :
    (pure x : Action ε σ α).Yields w y w' ↔ x = y ∧ w = w' := by
  simp [Yields]

theorem yields_fail {fault : Fault} {x : α} {w w' : σ} :
    ¬ (fail fault : Action ε σ α).Yields w x w' := by
  rintro ⟨h, -⟩
  cases h

theorem yields_report {event : ε} {w w' : σ} :
    (report event : Action ε σ Unit).Yields w () w' ↔ w = w' :=
  ⟨fun h ↦ h.2, fun h ↦ ⟨rfl, h⟩⟩

theorem yields_read {f : σ → α} {x : α} {w w' : σ} :
    (read f : Action ε σ α).Yields w x w' ↔ f w = x ∧ w = w' := by
  constructor
  · rintro ⟨hx, hw⟩
    exact ⟨Except.ok.inj hx, hw⟩
  · rintro ⟨rfl, rfl⟩
    exact ⟨rfl, rfl⟩

theorem yields_update {f : σ → σ} {w w' : σ} :
    (update f : Action ε σ Unit).Yields w () w' ↔ f w = w' :=
  ⟨fun h ↦ h.2, fun h ↦ ⟨rfl, h⟩⟩

theorem yields_bind {a : Action ε σ α} {f : α → Action ε σ β} {w w'' : σ} {y : β} :
    (a >>= f).Yields w y w'' ↔ ∃ x w', a.Yields w x w' ∧ (f x).Yields w' y w'' := by
  unfold Yields
  rw [run_bind]
  rcases a.run w with ⟨events, fault | x, t⟩
  · simp
  · constructor
    · intro h
      exact ⟨x, t, ⟨rfl, rfl⟩, h⟩
    · rintro ⟨x', t', ⟨hx, ht⟩, h⟩
      obtain rfl : x = x' := by simpa using hx
      obtain rfl : t = t' := ht
      exact h

def FaultsOnly (P : Fault → Prop) (a : Action ε σ α) : Prop :=
  ∀ w fault, (a.run w).result = .error fault → P fault

theorem FaultsOnly.pure (P : Fault → Prop) (x : α) : (pure x : Action ε σ α).FaultsOnly P := by
  intro w fault h
  cases h

theorem FaultsOnly.bind {P : Fault → Prop} {a : Action ε σ α} {f : α → Action ε σ β}
    (ha : a.FaultsOnly P) (hf : ∀ x, (f x).FaultsOnly P) : (a >>= f).FaultsOnly P := by
  intro w fault h
  rw [run_bind] at h
  rcases ho : a.run w with ⟨events, fault' | x, w'⟩
  · rw [ho] at h
    cases h
    exact ha w fault (congrArg Outcome.result ho)
  · rw [ho] at h
    exact hf x w' fault h

theorem FaultsOnly.report (P : Fault → Prop) (event : ε) :
    (report event : Action ε σ Unit).FaultsOnly P := by
  intro w fault h
  cases h

theorem FaultsOnly.thenReport {P : Fault → Prop} {a : Action ε σ α} (h : a.FaultsOnly P)
    (event : ε) : (a.thenReport event).FaultsOnly P := h

def KeepsState (a : Action ε σ α) : Prop :=
  ∀ w, (a.run w).state = w

theorem KeepsState.pure (x : α) : (pure x : Action ε σ α).KeepsState :=
  fun _ ↦ rfl

theorem KeepsState.ofExcept (result : Except Fault α) :
    (ofExcept result : Action ε σ α).KeepsState :=
  fun _ ↦ rfl

theorem KeepsState.report (event : ε) : (report event : Action ε σ Unit).KeepsState :=
  fun _ ↦ rfl

theorem KeepsState.bind {a : Action ε σ α} {f : α → Action ε σ β} (ha : a.KeepsState)
    (hf : ∀ x, (f x).KeepsState) : (a >>= f).KeepsState := by
  intro w
  have hstate := ha w
  rw [run_bind]
  rcases ho : a.run w with ⟨events, fault | x, w'⟩
  · rw [ho] at hstate
    exact hstate
  · rw [ho] at hstate
    obtain rfl : w' = w := hstate
    exact hf x w'

theorem KeepsState.eq_of_yields {a : Action ε σ α} (ha : a.KeepsState) {w w' : σ} {x : α}
    (h : a.Yields w x w') : w = w' :=
  (ha w).symm.trans h.2

/-- The action does not tell related states apart, neither by its events nor by its result, and the
states it leaves are related again. -/
def Respects (R : σ → σ → Prop) (a : Action ε σ α) : Prop :=
  ∀ w₁ w₂, R w₁ w₂ → (a.run w₁).events = (a.run w₂).events ∧
    (a.run w₁).result = (a.run w₂).result ∧ R (a.run w₁).state (a.run w₂).state

theorem Respects.pure (R : σ → σ → Prop) (x : α) : (pure x : Action ε σ α).Respects R :=
  fun _ _ h ↦ ⟨rfl, rfl, h⟩

theorem Respects.bind {R : σ → σ → Prop} {a : Action ε σ α} {f : α → Action ε σ β}
    (ha : a.Respects R) (hf : ∀ x, (f x).Respects R) : (a >>= f).Respects R := by
  intro w₁ w₂ h
  obtain ⟨hevents, hresult, hstate⟩ := ha w₁ w₂ h
  rw [run_bind, run_bind]
  rcases h₁ : a.run w₁ with ⟨events₁, result₁, t₁⟩
  rcases h₂ : a.run w₂ with ⟨events₂, result₂, t₂⟩
  rw [h₁, h₂] at hevents hresult hstate
  obtain rfl : events₁ = events₂ := hevents
  obtain rfl : result₁ = result₂ := hresult
  cases result₁ with
  | error fault => exact ⟨rfl, rfl, hstate⟩
  | ok x =>
    obtain ⟨hevents', hresult', hstate'⟩ := hf x t₁ t₂ hstate
    exact ⟨congrArg (events₁ ++ ·) hevents', hresult', hstate'⟩

theorem Respects.report (R : σ → σ → Prop) (event : ε) :
    (report event : Action ε σ Unit).Respects R :=
  fun _ _ h ↦ ⟨rfl, rfl, h⟩

theorem Respects.ofExcept (R : σ → σ → Prop) (result : Except Fault α) :
    (ofExcept result : Action ε σ α).Respects R :=
  fun _ _ h ↦ ⟨rfl, rfl, h⟩

theorem Respects.thenReport {R : σ → σ → Prop} {a : Action ε σ α} (ha : a.Respects R)
    (event : ε) : (a.thenReport event).Respects R := by
  intro w₁ w₂ h
  obtain ⟨hevents, hresult, hstate⟩ := ha w₁ w₂ h
  exact ⟨congrArg (· ++ [event]) hevents, hresult, hstate⟩

end Action

end BatchScaler

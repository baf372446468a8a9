import BatchScaler.Fault

namespace BatchScaler

structure Outcome (ε σ α : Type) where
  events : List ε
  result : Except Fault α
  state : σ

/-- An action on a state `σ` that reports events `ε`. -/
def Action (ε σ α : Type) : Type :=
  σ → Outcome ε σ α

namespace Action

variable {ε δ σ α β : Type}

def run (a : Action ε σ α) (s : σ) : Outcome ε σ α :=
  a s

protected def pure (x : α) : Action ε σ α :=
  fun s => ⟨[], .ok x, s⟩

protected def bind (a : Action ε σ α) (f : α → Action ε σ β) : Action ε σ β := fun s =>
  match a.run s with
  | ⟨events, .error fault, s⟩ => ⟨events, .error fault, s⟩
  | ⟨events, .ok x, s⟩ =>
    let next := (f x).run s
    ⟨events ++ next.events, next.result, next.state⟩

instance : Monad (Action ε σ) where
  pure := Action.pure
  bind := Action.bind

def report (event : ε) : Action ε σ Unit :=
  fun s => ⟨[event], .ok (), s⟩

def ofExcept (result : Except Fault α) : Action ε σ α :=
  fun s => ⟨[], result, s⟩

def fail (fault : Fault) : Action ε σ α :=
  ofExcept (.error fault)

def read (f : σ → α) : Action ε σ α :=
  fun s => ⟨[], .ok (f s), s⟩

def update (f : σ → σ) : Action ε σ Unit :=
  fun s => ⟨[], .ok (), f s⟩

def thenReport (a : Action ε σ α) (event : ε) : Action ε σ α := fun s =>
  let outcome := a.run s
  { outcome with events := outcome.events ++ [event] }

def recover (a : Action ε σ α) (handler : Fault → Action ε σ α) : Action ε σ α := fun s =>
  match a.run s with
  | ⟨events, .ok x, s⟩ => ⟨events, .ok x, s⟩
  | ⟨events, .error fault, s⟩ =>
    let next := (handler fault).run s
    ⟨events ++ next.events, next.result, next.state⟩

def mapEvents (f : ε → δ) (a : Action ε σ α) : Action δ σ α := fun s =>
  let outcome := a.run s
  ⟨outcome.events.map f, outcome.result, outcome.state⟩

@[simp] theorem run_pure (x : α) (s : σ) : (pure x : Action ε σ α).run s = ⟨[], .ok x, s⟩ := rfl

theorem run_bind_ok {a : Action ε σ α} {s : σ} {x : α} (h : (a.run s).result = .ok x)
    (f : α → Action ε σ β) :
    (a >>= f).run s =
      ⟨(a.run s).events ++ ((f x).run (a.run s).state).events,
        ((f x).run (a.run s).state).result, ((f x).run (a.run s).state).state⟩ := by
  show Action.bind a f s = _
  unfold Action.bind
  rcases hr : a.run s with ⟨events, _ | y, t⟩
  · simp [hr] at h
  · simp only [hr, Except.ok.injEq] at h
    subst h
    rfl

theorem run_bind_error {a : Action ε σ α} {s : σ} {fault : Fault}
    (h : (a.run s).result = .error fault) (f : α → Action ε σ β) :
    (a >>= f).run s = ⟨(a.run s).events, .error fault, (a.run s).state⟩ := by
  show Action.bind a f s = _
  unfold Action.bind
  rcases hr : a.run s with ⟨events, fault' | y, t⟩
  · simp only [hr, Except.error.injEq] at h
    subst h
    rfl
  · simp [hr] at h

instance : LawfulMonad (Action ε σ) := LawfulMonad.mk' (Action ε σ)
  (by
    intro α a
    funext s
    show Action.bind a (fun x => Action.pure x) s = a s
    simp only [Action.bind, run, Action.pure]
    rcases a s with ⟨events, _ | x, t⟩ <;> simp)
  (by
    intro α β x f
    funext s
    show Action.bind (Action.pure x) f s = f x s
    simp [Action.bind, Action.pure, run])
  (by
    intro α β γ a f g
    funext s
    show Action.bind (Action.bind a f) g s = Action.bind a (fun x => Action.bind (f x) g) s
    simp only [Action.bind, run]
    rcases a s with ⟨events, _ | x, t⟩
    · rfl
    · simp only
      rcases f x t with ⟨events', _ | y, u⟩ <;> simp)

end Action

end BatchScaler

import BatchScaler.Proofs.Report.Outcome
import BatchScaler.Script.Run

namespace BatchScaler

variable {σ ι κ α β δ ε : Type}

namespace Event

/-- Everything but the log and the marks between statements is visible: what is written, what the
user is told, what is asked of the service and what is measured. -/
def isVisible : Event ι → Bool
  | log _ | stepped .. => false
  | _ => true

def visible (events : List (Event ι)) : List (Event ι) :=
  events.filter isVisible

@[simp] theorem visible_nil : visible ([] : List (Event ι)) = [] := rfl

@[simp] theorem visible_append (xs ys : List (Event ι)) :
    visible (xs ++ ys) = visible xs ++ visible ys := List.filter_append ..

@[simp] theorem visible_map_log (records : List LogRecord) :
    visible (records.map (log : LogRecord → Event ι)) = [] := by
  simp [visible, isVisible]

end Event

namespace Action

def visible (a : Action (Event ι) σ α) : Action (Event ι) σ α := fun w ↦
  ⟨Event.visible (a.run w).events, (a.run w).result, (a.run w).state⟩

def silent (a : Action δ σ α) : Action ε σ α := fun w ↦
  ⟨[], (a.run w).result, (a.run w).state⟩

theorem run_visible (a : Action (Event ι) σ α) (w : σ) :
    a.visible.run w = ⟨Event.visible (a.run w).events, (a.run w).result, (a.run w).state⟩ := rfl

theorem events_visible (a : Action (Event ι) σ α) (w : σ) :
    (a.visible.run w).events = Event.visible (a.run w).events := rfl

theorem result_visible (a : Action (Event ι) σ α) (w : σ) :
    (a.visible.run w).result = (a.run w).result := rfl

theorem state_visible (a : Action (Event ι) σ α) (w : σ) :
    (a.visible.run w).state = (a.run w).state := rfl

theorem yields_of_visible {a : Action (Event ι) σ α} {w w' : σ} {E : List (Event ι)} {x : α}
    (h : a.visible.run w = ⟨E, .ok x, w'⟩) : a.Yields w x w' :=
  ⟨congrArg Outcome.result h, congrArg Outcome.state h⟩

@[simp] theorem run_silent (a : Action δ σ α) (w : σ) :
    (a.silent : Action ε σ α).run w = ⟨[], (a.run w).result, (a.run w).state⟩ := rfl

@[simp] theorem visible_pure (x : α) :
    (pure x : Action (Event ι) σ α).visible = pure x := rfl

@[simp] theorem visible_ofExcept (result : Except Fault α) :
    (ofExcept result : Action (Event ι) σ α).visible = ofExcept result := rfl

theorem visible_report (e : Event ι) :
    (report e : Action (Event ι) σ Unit).visible =
      if e.isVisible then report e else pure () := by
  apply Action.ext
  intro w
  rw [run_visible, run_report]
  by_cases h : e.isVisible <;> simp [Event.visible, h]

theorem visible_mapEvents (a : Action LogRecord σ α) :
    (a.mapEvents (Event.log : LogRecord → Event ι)).visible = a.silent := by
  apply Action.ext
  intro w
  rw [run_visible, run_silent, run_mapEvents, Event.visible_map_log]

/-- Leaving out what is not visible commutes with sequencing. -/
@[simp] theorem visible_bind (a : Action (Event ι) σ α) (f : α → Action (Event ι) σ β) :
    (a >>= f).visible = a.visible >>= fun x ↦ (f x).visible := by
  apply Action.ext
  intro w
  rw [run_bind, run_visible, run_visible, run_bind]
  rcases a.run w with ⟨events, fault | x, t⟩
  · rfl
  · simp only [Outcome.andThen_ok, Outcome.after, Event.visible_append, run_visible]

theorem visible_thenReport (a : Action (Event ι) σ α) {e : Event ι} (h : e.isVisible) :
    (a.thenReport e).visible = a.visible.thenReport e := by
  apply Action.ext
  intro w
  rw [run_visible, run_thenReport, run_thenReport, run_visible]
  simp [Event.visible, h]

@[simp] theorem visible_recover (a : Action (Event ι) σ α)
    (handler : Fault → Action (Event ι) σ α) :
    (a.recover handler).visible = a.visible.recover fun fault ↦ (handler fault).visible := by
  apply Action.ext
  intro w
  rw [run_visible, run_recover, run_recover, run_visible]
  rcases a.run w with ⟨events, fault | x, t⟩
  · simp only [Outcome.orElse_error, Outcome.after, Event.visible_append, run_visible]
  · rfl

end Action

end BatchScaler

import BatchScaler.Proofs.Report.Outcome
import BatchScaler.Script.Session

namespace BatchScaler

variable {ε σ ι κ α β : Type}

inductive Upshot
  | returned
  | raised (fault : Fault)
  deriving DecidableEq

def Upshot.of : Except Fault α → Upshot
  | .ok _ => .returned
  | .error fault => .raised fault

namespace Action

def beside (a : Action ε σ α) : Action ε (σ × List Upshot) α := fun w ↦
  ⟨(a.run w.1).events, (a.run w.1).result, ((a.run w.1).state, w.2)⟩

def recorded (a : Action ε σ α) : Action ε (σ × List Upshot) α := fun w ↦
  ⟨(a.run w.1).events, (a.run w.1).result, ((a.run w.1).state, w.2 ++ [.of (a.run w.1).result])⟩

theorem run_beside (a : Action ε σ α) (w : σ) (calls : List Upshot) :
    a.beside.run (w, calls) = ⟨(a.run w).events, (a.run w).result, ((a.run w).state, calls)⟩ := rfl

theorem run_recorded (a : Action ε σ α) (w : σ) (calls : List Upshot) :
    a.recorded.run (w, calls) =
      ⟨(a.run w).events, (a.run w).result,
        ((a.run w).state, calls ++ [.of (a.run w).result])⟩ := rfl

end Action

def ImageService.watched (service : ImageService σ ι κ) :
    ImageService (σ × List Upshot) ι κ where
  load path := (service.load path).beside
  applyFilter image f requested xMode yMode :=
    (service.applyFilter image f requested xMode yMode).recorded
  save image path := (service.save image path).beside
  hasEncoder mime := (service.hasEncoder mime).beside
  saveWithQuality image path mime quality :=
    (service.saveWithQuality image path mime quality).beside

def Session.watched (s : Session σ ι κ) : Session (σ × List Upshot) ι κ where
  service := s.service.watched
  registry := s.registry
  program := s.program

namespace Event

def isMeasure : Event ι → Bool
  | timed _ | counted _ => true
  | _ => false

def measures (events : List (Event ι)) : List (Event ι) :=
  events.filter isMeasure

theorem measures_append (xs ys : List (Event ι)) :
    measures (xs ++ ys) = measures xs ++ measures ys := List.filter_append ..

theorem measures_map_log (records : List LogRecord) :
    measures (records.map (log : LogRecord → Event ι)) = [] := by
  simp [measures, isMeasure]

theorem measureAll_append (m : Metrics) (xs ys : List (Event ι)) :
    measureAll m (xs ++ ys) = measureAll (measureAll m xs) ys := List.foldl_append

theorem measureAll_measures (m : Metrics) (events : List (Event ι)) :
    measureAll m (measures events) = measureAll m events := by
  induction events generalizing m with
  | nil => rfl
  | cons event rest ih =>
    cases event
    case timed key => exact ih (m.time key)
    case counted key => exact ih (m.increment key 1)
    all_goals exact ih m

end Event

def Upshot.measures : Upshot → List (Event ι)
  | returned => [.timed Session.durationKey, .counted Session.appliedKey]
  | raised _ => [.timed Session.durationKey]

/-- The events of a piece of a run account for its calls: they are measured one by one, and none but
the last raised a fault, with which the piece ended then. -/
structure Accounted (events : List (Event ι)) (result : Except Fault α) (calls : List Upshot) :
    Prop where
  measures : Event.measures events = calls.flatMap Upshot.measures
  course : ∃ n, calls = List.replicate n .returned ∨
    ∃ fault, result = .error fault ∧ calls = List.replicate n .returned ++ [.raised fault]

namespace Accounted

theorem nil {events : List (Event ι)} (h : Event.measures events = []) (result : Except Fault α) :
    Accounted events result [] :=
  ⟨h, 0, .inl rfl⟩

theorem abort {events : List (Event ι)} {fault : Fault} {calls : List Upshot}
    (h : Accounted events (.error fault : Except Fault α) calls) :
    Accounted events (.error fault : Except Fault β) calls := by
  obtain ⟨hmeasures, n, hn | ⟨fault', hfault, hn⟩⟩ := h
  · exact ⟨hmeasures, n, .inl hn⟩
  · cases hfault
    exact ⟨hmeasures, n, .inr ⟨fault, rfl, hn⟩⟩

/-- Calls of a piece that came to its end all returned, so any piece may follow. -/
theorem append {xs ys : List (Event ι)} {x : α} {result : Except Fault β} {calls next : List Upshot}
    (h : Accounted xs (.ok x) calls) (h' : Accounted ys result next) :
    Accounted (xs ++ ys) result (calls ++ next) := by
  obtain ⟨hmeasures, n, rfl | ⟨fault, hfault, -⟩⟩ := h
  · obtain ⟨hmeasures', k, hk⟩ := h'
    refine ⟨?_, n + k, ?_⟩
    · rw [Event.measures_append, hmeasures, hmeasures', List.flatMap_append]
    rw [← List.replicate_append_replicate]
    rcases hk with rfl | ⟨fault, hfault, rfl⟩
    · exact .inl rfl
    · exact .inr ⟨fault, hfault, (List.append_assoc ..).symm⟩
  · cases hfault

end Accounted

namespace Action

/-- One action is another one with a record of calls, which the events account for. -/
def Watches (a' : Action (Event ι) (σ × List Upshot) α) (a : Action (Event ι) σ α) : Prop :=
  ∀ w calls, ∃ new,
    a'.run (w, calls) = ⟨(a.run w).events, (a.run w).result, ((a.run w).state, calls ++ new)⟩ ∧
    Accounted (a.run w).events (a.run w).result new

namespace Watches

theorem pure (x : α) :
    (pure x : Action (Event ι) (σ × List Upshot) α).Watches (pure x : Action (Event ι) σ α) :=
  fun _ calls ↦ ⟨[], by rw [List.append_nil]; rfl, .nil rfl _⟩

theorem ofExcept (result : Except Fault α) :
    (ofExcept result : Action (Event ι) (σ × List Upshot) α).Watches
      (ofExcept result : Action (Event ι) σ α) :=
  fun _ calls ↦ ⟨[], by rw [List.append_nil]; rfl, .nil rfl _⟩

theorem report {event : Event ι} (h : event.isMeasure = false) :
    (report event : Action (Event ι) (σ × List Upshot) Unit).Watches
      (report event : Action (Event ι) σ Unit) := by
  intro w calls
  refine ⟨[], by rw [List.append_nil]; rfl, .nil ?_ _⟩
  rw [run_report]
  simp [Event.measures, h]

theorem bind {a' : Action (Event ι) (σ × List Upshot) α} {a : Action (Event ι) σ α}
    {f' : α → Action (Event ι) (σ × List Upshot) β} {f : α → Action (Event ι) σ β}
    (ha : a'.Watches a) (hf : ∀ x, (f' x).Watches (f x)) : (a' >>= f').Watches (a >>= f) := by
  intro w calls
  obtain ⟨new, hrun, hacc⟩ := ha w calls
  rw [run_bind, run_bind, hrun]
  rcases ho : a.run w with ⟨events, fault | x, t⟩
  · rw [ho] at hacc
    exact ⟨new, rfl, hacc.abort⟩
  · rw [ho] at hacc
    obtain ⟨next, hnext, hacc'⟩ := hf x t (calls ++ new)
    refine ⟨new ++ next, ?_, hacc.append hacc'⟩
    rw [Outcome.andThen_ok, hnext, List.append_assoc]
    rfl

/-- A question that is no application of a filter leaves nothing on record. -/
theorem ask {request : Action LogRecord σ α} {event : Event ι} (h : event.isMeasure = false) :
    (Session.ask event request.beside).Watches (Session.ask event request) := by
  refine .bind (.report h) fun _ w calls ↦ ⟨[], ?_, .nil ?_ _⟩
  · rw [run_mapEvents, run_mapEvents, run_beside, List.append_nil]
  · rw [run_mapEvents]
    exact Event.measures_map_log _

end Watches

end Action

end BatchScaler

import Mathlib.Algebra.GroupWithZero.Nat
import BatchScaler.Proofs.Service.Rehearsal
import BatchScaler.Proofs.Service.Watching
import BatchScaler.Script.Run

namespace BatchScaler

open BatchScaler.Action

variable {σ ι κ : Type}

namespace Session

variable (s : Session σ ι κ)

theorem watches_log (severity : Severity) (category text : String) :
    (log severity category text : Action (Event ι) (σ × List Upshot) Unit).Watches
      (log severity category text : Action (Event ι) σ Unit) :=
  .report rfl

theorem watches_refuse (notice : Notice) :
    (refuse notice : Action (Event ι) (σ × List Upshot) (Flow ι)).Watches
      (refuse notice : Action (Event ι) σ (Flow ι)) :=
  .bind (.report rfl) fun _ ↦ .pure _

theorem watches_usageFailure : s.watched.usageFailure.Watches s.usageFailure :=
  .bind (.report rfl) fun _ ↦ .pure _

/-- The duration is taken before it is known whether the application returned. -/
theorem watches_applyOnce (f : NamedFilter κ) (requested : Size) (image : ι) :
    (s.watched.applyOnce f requested image).Watches (s.applyOnce f requested image) := by
  intro w calls
  refine ⟨[.of ((s.service.applyFilter image f requested resizeEdge resizeEdge).run w).result],
    ?_, ?_⟩
  · simp only [applyOnce, ask, watched, ImageService.watched, run_bind, run_thenReport, run_report,
      run_mapEvents, run_recorded, Outcome.andThen_ok]
    rcases (s.service.applyFilter image f requested resizeEdge resizeEdge).run w with
      ⟨logs, fault | image', w'⟩ <;> rfl
  · simp only [applyOnce, ask, run_bind, run_thenReport, run_report, run_mapEvents,
      Outcome.andThen_ok]
    rcases (s.service.applyFilter image f requested resizeEdge resizeEdge).run w with
      ⟨logs, fault | image', w'⟩
    · refine ⟨?_, 0, .inr ⟨fault, rfl, rfl⟩⟩
      simp only [Outcome.after_mk, Outcome.andThen_error, Event.measures_append,
        Event.measures_map_log]
      rfl
    · refine ⟨?_, 1, .inl rfl⟩
      simp only [Outcome.after_mk, Outcome.andThen_ok, run_bind, run_report, run_pure,
        Event.measures_append, Event.measures_map_log]
      rfl

theorem watches_applyTimes (f : NamedFilter κ) (requested : Size) (n : Nat) (image : ι) :
    (s.watched.applyTimes f requested n image).Watches (s.applyTimes f requested n image) := by
  induction n generalizing image with
  | zero => exact .pure image
  | succ n ih => exact .bind (s.watches_applyOnce f requested image) ih

theorem watches_resizeImage (dimensions : Dimensions) (spec : FilterSpec) (image : ι) :
    (s.watched.resizeImage dimensions spec image).Watches
      (s.resizeImage dimensions spec image) := by
  have hregistry : s.watched.registry = s.registry := rfl
  refine .bind (.report rfl) fun _ ↦ ?_
  rw [hregistry]
  cases s.registry.resolve spec.name with
  | none => exact watches_refuse _
  | some f => exact .bind (s.watches_applyTimes f _ _ image) fun _ ↦ .pure _

theorem watches_resize (size filter : String) (b : Option ι) :
    (s.watched.resize size filter b).Watches (s.resize size filter b) := by
  refine .bind (.ofExcept _) fun operand ↦ ?_
  cases operand with
  | error rejection => exact .bind (watches_log _ _ _) fun _ ↦ s.watches_usageFailure
  | ok dimensions =>
    refine .bind (.ofExcept _) fun spec ↦ ?_
    cases b with
    | none => exact watches_refuse _
    | some image => exact s.watches_resizeImage dimensions spec image

theorem watches_saveImage (path : String) (image : ι) :
    (s.watched.saveImage path image).Watches (s.saveImage path image) := by
  unfold saveImage
  cases isJpegPath path with
  | false => exact .bind (.ask rfl) fun _ ↦ .pure _
  | true =>
    refine .bind (.ask rfl) fun available ↦ ?_
    cases available with
    | false => exact .pure _
    | true => exact .bind (watches_log _ _ _) fun _ ↦ .bind (.ask rfl) fun _ ↦ .pure _

theorem watches_save (path : String) (b : Option ι) :
    (s.watched.save path b).Watches (s.save path b) := by
  cases b with
  | none =>
    simp only [save, pure_bind]
    exact .bind (.report rfl) fun _ ↦ .pure _
  | some image =>
    refine .bind (s.watches_saveImage path image) fun obstacle ↦ ?_
    cases obstacle with
    | none => exact .pure _
    | some notice => exact .bind (.report rfl) fun _ ↦ .pure _

theorem watches_exit (ignored : Nat) :
    (exit ignored : Action (Event ι) (σ × List Upshot) (Flow ι)).Watches
      (exit ignored : Action (Event ι) σ (Flow ι)) := by
  unfold exit
  split
  · exact .bind (watches_log _ _ _) fun _ ↦ .pure _
  · exact .bind (.pure _) fun _ ↦ .pure _

theorem watches_perform (request : Request) (b : Option ι) :
    (s.watched.perform request b).Watches (s.perform request b) := by
  cases request with
  | load path => exact .bind (.ask rfl) fun _ ↦ .pure _
  | resize size filter => exact s.watches_resize size filter b
  | save path =>
    refine .bind (s.watches_save path b) fun saved ↦ ?_
    cases saved with
    | true => exact .pure _
    | false => exact .pure _
  | exit ignored => exact watches_exit ignored
  | incomplete => exact s.watches_usageFailure

theorem watches_execute (st : Statement) (b : Option ι) :
    (s.watched.execute st b).Watches (s.execute st b) := by
  unfold execute
  cases st.request with
  | none => exact .bind (watches_log _ _ _) fun _ ↦ .bind (.report rfl) fun _ ↦ .pure _
  | some request =>
    refine .bind (watches_log _ _ _) fun _ ↦ .bind (s.watches_perform request b) fun flow ↦
      .bind (.report rfl) fun _ ↦ ?_
    cases flow with
    | next b' => exact .bind (.pure _) fun _ ↦ .pure _
    | halt status => exact .bind (watches_log _ _ _) fun _ ↦ .pure _

theorem watches_executeAll (b : Option ι) (sts : List Statement) :
    (s.watched.executeAll b sts).Watches (s.executeAll b sts) := by
  induction sts generalizing b with
  | nil => exact .pure _
  | cons st rest ih =>
    refine .bind (s.watches_execute st b) fun flow ↦ ?_
    cases flow with
    | next b' => exact ih b'
    | halt status => exact .pure _

theorem watches_runFrom (b : Option ι) (sts : List Statement) :
    (s.watched.runFrom b sts).Watches (s.runFrom b sts) :=
  .bind (s.watches_executeAll b sts) fun _ ↦ .pure _

end Session

namespace Tally

def only (key : String) : Nat → Tally
  | 0 => {}
  | n + 1 => ⟨[(key, n + 1)]⟩

theorem add_only (key : String) (n : Nat) : (only key n).add key 1 = only key (n + 1) := by
  cases n with
  | zero => rfl
  | succ n => simp [only, add, addTo]

@[simp] theorem count_only (key : String) (n : Nat) : (only key n).count key = n := by
  cases n <;> simp [only, count]

theorem key_of_mem_only {key : String} {n : Nat} {entry : String × Int}
    (h : entry ∈ (only key n).entries) : entry.1 = key := by
  cases n with
  | zero => exact absurd h List.not_mem_nil
  | succ n =>
    obtain rfl := List.mem_singleton.1 h
    rfl

end Tally

/-- The metrics of runs that asked for some applications of filters, of which some returned. -/
def Metrics.ofApplications (asked returned : Nat) : Metrics where
  counters := .only Session.appliedKey returned
  timings := .only Session.durationKey asked

theorem Event.measureAll_calls (asked returned : Nat) (calls : List Upshot) :
    measureAll (.ofApplications asked returned) (calls.flatMap (Upshot.measures (ι := ι))) =
      .ofApplications (asked + calls.length) (returned + calls.count .returned) := by
  induction calls generalizing asked returned with
  | nil => rfl
  | cons call rest ih =>
    rw [List.flatMap_cons, measureAll_append]
    cases call with
    | returned =>
      have hcall : measureAll (.ofApplications asked returned) (Upshot.returned.measures (ι := ι)) =
          .ofApplications (asked + 1) (returned + 1) := by
        simp only [Upshot.measures, measureAll, List.foldl_cons, List.foldl_nil, measure,
          Metrics.time, Metrics.increment, Metrics.ofApplications, Tally.add_only]
      rw [hcall, ih, List.count_cons_self, List.length_cons]
      congr 1 <;> omega
    | raised fault =>
      have hcall : measureAll (.ofApplications asked returned)
          ((Upshot.raised fault).measures (ι := ι)) = .ofApplications (asked + 1) returned := by
        simp only [Upshot.measures, measureAll, List.foldl_cons, List.foldl_nil, measure,
          Metrics.time, Metrics.ofApplications, Tally.add_only]
      rw [hcall, ih, List.count_cons_of_ne (by simp), List.length_cons]
      congr 1
      omega

structure Launch where
  {σ ι κ : Type}
  session : Session σ ι κ
  tokens : List Token
  start : σ

namespace Launch

variable (l : Launch)

def outcome : Outcome (Event l.ι) l.σ ExitStatus :=
  (l.session.runTokens l.tokens).run l.start

/-- What came of the applications of filters that the run asked its service for. They are read off
the run of the watched session, which is the same run (`run_watched`). -/
def calls : List Upshot :=
  ((l.session.watched.runTokens l.tokens).run (l.start, [])).state.2

/-- Whether the run ended with the fault that its last application of a filter raised. -/
def abortedInFilter : Bool :=
  match l.outcome.result with
  | .ok _ => false
  | .error fault => l.calls.getLast? == some (.raised fault)

def metricsAfter (launches : List Launch) : Metrics :=
  launches.foldl (fun m l ↦ Event.measureAll m l.outcome.events) {}

theorem run_watched :
    (l.session.watched.runTokens l.tokens).run (l.start, []) =
      ⟨l.outcome.events, l.outcome.result, (l.outcome.state, l.calls)⟩ := by
  obtain ⟨new, hrun, -⟩ := l.session.watches_runFrom none (script ⟨l.tokens⟩) l.start []
  have hcalls : l.calls = new := congrArg (fun o ↦ o.state.2) hrun
  rw [hcalls]
  exact hrun

theorem accounted : Accounted l.outcome.events l.outcome.result l.calls := by
  obtain ⟨new, hrun, hacc⟩ := l.session.watches_runFrom none (script ⟨l.tokens⟩) l.start []
  have hcalls : l.calls = new := congrArg (fun o ↦ o.state.2) hrun
  exact hcalls ▸ hacc

/-- At most one application of a run raises a fault, and then the run is aborted by it. -/
theorem length_calls :
    l.calls.length = l.calls.count .returned + if l.abortedInFilter then 1 else 0 := by
  obtain ⟨-, n, hn | ⟨fault, hfault, hn⟩⟩ := l.accounted
  · have haborted : l.abortedInFilter = false := by
      unfold abortedInFilter
      cases l.outcome.result with
      | ok status => rfl
      | error fault =>
        simp only [hn, List.getLast?_replicate]
        split <;> rfl
    simp [haborted, hn]
  · have haborted : l.abortedInFilter = true := by
      simp [abortedInFilter, hfault, hn]
    simp [haborted, hn]

theorem measureAll_outcome (asked returned : Nat) :
    Event.measureAll (.ofApplications asked returned) l.outcome.events =
      .ofApplications (asked + l.calls.length) (returned + l.calls.count .returned) := by
  rw [← Event.measureAll_measures, l.accounted.measures, Event.measureAll_calls]

theorem foldl_measureAll (launches : List Launch) (asked returned : Nat) :
    launches.foldl (fun m l ↦ Event.measureAll m l.outcome.events)
      (.ofApplications asked returned) =
      .ofApplications (asked + (launches.map (·.calls.length)).sum)
        (returned + (launches.map (·.calls.count .returned)).sum) := by
  induction launches generalizing asked returned with
  | nil => rfl
  | cons l rest ih =>
    rw [List.foldl_cons, measureAll_outcome, ih]
    simp only [List.map_cons, List.sum_cons, Nat.add_assoc]

theorem sum_length_calls (launches : List Launch) :
    (launches.map (·.calls.length)).sum =
      (launches.map (·.calls.count .returned)).sum + launches.countP (·.abortedInFilter) := by
  induction launches with
  | nil => rfl
  | cons l rest ih =>
    rw [List.map_cons, List.sum_cons, List.map_cons, List.sum_cons, List.countP_cons, ih,
      l.length_calls]
    omega

/-- The metrics account for every application of every run: those that returned are counted, all are
timed, and the two differ by the runs that an application aborted. There is no other key. -/
theorem metrics_account (launches : List Launch) :
    (metricsAfter launches).counters.count Session.appliedKey =
      (launches.map (·.calls.count .returned)).sum ∧
    (metricsAfter launches).timings.count Session.durationKey =
      (launches.map (·.calls.length)).sum ∧
    (metricsAfter launches).timings.count Session.durationKey -
        (metricsAfter launches).counters.count Session.appliedKey =
      launches.countP (·.abortedInFilter) ∧
    (∀ entry ∈ (metricsAfter launches).counters.entries, entry.1 = Session.appliedKey) ∧
    ∀ entry ∈ (metricsAfter launches).timings.entries, entry.1 = Session.durationKey := by
  have hafter : metricsAfter launches = .ofApplications (launches.map (·.calls.length)).sum
      (launches.map (·.calls.count .returned)).sum := by
    have hfold := foldl_measureAll launches 0 0
    rw [Nat.zero_add, Nat.zero_add] at hfold
    exact hfold
  have hsum := sum_length_calls launches
  rw [hafter]
  simp only [Metrics.ofApplications, Tally.count_only]
  refine ⟨trivial, trivial, by omega, fun entry h ↦ Tally.key_of_mem_only h,
    fun entry h ↦ Tally.key_of_mem_only h⟩

example : (⟨Rehearsal.sampleWithFailure,
      ["/LOAD", "a", "/RESIZE", "0x0", "Pixel(3)"].map some, {}⟩ : Launch).calls =
    [.returned, .raised (.io "Pixel" "filter failed")] := by decide +kernel

end Launch

end BatchScaler

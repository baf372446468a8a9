import BatchScaler.Proofs.Script.Step

namespace BatchScaler

variable {σ ι κ : Type}

namespace Session

open BatchScaler.Action

variable (s : Session σ ι κ)

theorem run_runFrom (b : Option ι) (sts : List Statement) (w : σ) :
    (s.runFrom b sts).run w = ((s.executeAll b sts).run w).map Flow.status :=
  run_bind_pure (s.executeAll b sts) Flow.status w

theorem run_visible_runFrom (b : Option ι) (sts : List Statement) (w : σ) :
    (s.runFrom b sts).visible.run w = ((s.executeAll b sts).visible.run w).map Flow.status := by
  rw [run_visible, run_runFrom]
  rfl

/-- From the buffer `b` and the service state `w` the statements are all carried out, with the
visible events `E`; the buffer `b'` and the state `w'` are what they leave. -/
def Passes (b : Option ι) (w : σ) (sts : List Statement) (E : List (Event ι)) (b' : Option ι)
    (w' : σ) : Prop :=
  (s.executeAll b sts).visible.run w = ⟨E, .ok (.next b'), w'⟩

def Stops (b : Option ι) (w : σ) (st : Statement) : Prop :=
  ∀ b', ((s.enact st.request b).run w).result ≠ .ok (.next b')

/-- Statements carried out from an empty buffer come to `st`, with the buffer `b` and the service
state `w'` then. -/
def Reaches (w : σ) (sts : List Statement) (st : Statement) (b : Option ι) (w' : σ) : Prop :=
  ∃ done rest E, sts = done ++ st :: rest ∧ s.Passes none w done E b w'

variable {s}

theorem executeAll_append (b : Option ι) (xs ys : List Statement) :
    s.executeAll b (xs ++ ys) = s.executeAll b xs >>= fun flow ↦
      match flow with
      | .next b => s.executeAll b ys
      | .halt status => pure (.halt status) := by
  induction xs generalizing b with
  | nil => simp only [List.nil_append, executeAll, pure_bind]
  | cons st rest ih =>
    simp only [List.cons_append, executeAll, bind_assoc]
    congr 1
    funext flow
    cases flow with
    | next b => exact ih b
    | halt status => simp only [pure_bind]

theorem visible_executeAll_cons (b : Option ι) (st : Statement) (rest : List Statement) :
    (s.executeAll b (st :: rest)).visible = (s.enact st.request b).visible >>= fun flow ↦
      match flow with
      | .next b => (s.executeAll b rest).visible
      | .halt status => pure (.halt status) := by
  simp only [executeAll, visible_bind, visible_execute]
  congr 1
  funext flow
  cases flow <;> rfl

/-- What is visible of a run hangs on what its statements ask for, not on how many tokens they
left. -/
theorem visible_executeAll_congr {xs ys : List Statement}
    (h : xs.map Statement.request = ys.map Statement.request) (b : Option ι) :
    (s.executeAll b xs).visible = (s.executeAll b ys).visible := by
  induction xs generalizing ys b with
  | nil => cases ys <;> simp_all
  | cons x xs ih =>
    cases ys with
    | nil => simp at h
    | cons y ys =>
      simp only [List.map_cons, List.cons.injEq] at h
      simp only [visible_executeAll_cons, h.1, ih h.2]

theorem passes_nil {b b' : Option ι} {w w' : σ} {E : List (Event ι)} :
    s.Passes b w [] E b' w' ↔ E = [] ∧ b' = b ∧ w' = w := by
  simp only [Passes, executeAll, visible_pure, run_pure]
  constructor
  · intro h
    cases h
    exact ⟨rfl, rfl, rfl⟩
  · rintro ⟨rfl, rfl, rfl⟩
    rfl

theorem passes_of_result {b b' : Option ι} {w : σ} {sts : List Statement}
    (h : ((s.executeAll b sts).run w).result = .ok (.next b')) :
    s.Passes b w sts (Event.visible ((s.executeAll b sts).run w).events) b'
      ((s.executeAll b sts).run w).state := by
  rw [Passes, run_visible, h]

theorem run_of_passes {b b' : Option ι} {w w' : σ} {done : List Statement} {E : List (Event ι)}
    (h : s.Passes b w done E b' w') (rest : List Statement) :
    (s.executeAll b (done ++ rest)).visible.run w =
      ((s.executeAll b' rest).visible.run w').after E := by
  rw [executeAll_append, visible_bind, run_bind, h]
  rfl

theorem passes_append {b b'' : Option ι} {w w'' : σ} {xs ys : List Statement} {E : List (Event ι)} :
    s.Passes b w (xs ++ ys) E b'' w'' ↔
      ∃ E₁ b' w' E₂, s.Passes b w xs E₁ b' w' ∧ s.Passes b' w' ys E₂ b'' w'' ∧ E = E₁ ++ E₂ := by
  constructor
  · intro h
    rw [Passes, executeAll_append, visible_bind, run_bind] at h
    rcases hx : (s.executeAll b xs).visible.run w with ⟨E₁, fault | b' | status, w'⟩
    · simp [hx] at h
    · rw [hx, Outcome.andThen_ok] at h
      rcases hy : (s.executeAll b' ys).visible.run w' with ⟨E₂, result, w₂⟩
      simp only [hy, Outcome.after_mk, Outcome.mk.injEq] at h
      obtain ⟨rfl, rfl, rfl⟩ := h
      exact ⟨E₁, b', w', E₂, hx, hy, rfl⟩
    · simp [hx] at h
  · rintro ⟨E₁, b', w', E₂, hx, hy, rfl⟩
    rw [Passes, run_of_passes hx, hy]
    rfl

theorem passes_singleton {b b' : Option ι} {w w' : σ} {st : Statement} {E : List (Event ι)} :
    s.Passes b w [st] E b' w' ↔
      (s.enact st.request b).visible.run w = ⟨E, .ok (.next b'), w'⟩ := by
  have hrun : (s.executeAll b [st]).visible = (s.enact st.request b).visible := by
    rw [visible_executeAll_cons]
    refine Eq.trans ?_ (bind_pure _)
    congr 1
    funext flow
    cases flow <;> rfl
  rw [Passes, hrun]

theorem passes_cons {b b'' : Option ι} {w w'' : σ} {st : Statement} {rest : List Statement}
    {E : List (Event ι)} :
    s.Passes b w (st :: rest) E b'' w'' ↔
      ∃ E₁ b' w' E₂, (s.enact st.request b).visible.run w = ⟨E₁, .ok (.next b'), w'⟩ ∧
        s.Passes b' w' rest E₂ b'' w'' ∧ E = E₁ ++ E₂ := by
  rw [← List.singleton_append, passes_append]
  simp only [passes_singleton]

theorem Reaches.mem {w w' : σ} {sts : List Statement} {st : Statement} {b : Option ι}
    (h : s.Reaches w sts st b w') : st ∈ sts := by
  obtain ⟨done, rest, E, rfl, -⟩ := h
  exact List.mem_append_right done List.mem_cons_self

theorem Passes.reaches {w w' : σ} {done : List Statement} {st : Statement} {b : Option ι}
    {E : List (Event ι)} (h : s.Passes none w done E b w') (hst : st ∈ done)
    (rest : List Statement) : ∃ b₁ w₁, s.Reaches w (done ++ rest) st b₁ w₁ := by
  obtain ⟨before, since, rfl⟩ := List.append_of_mem hst
  obtain ⟨E₁, b₁, w₁, -, hbefore, -, -⟩ := passes_append.1 h
  refine ⟨b₁, w₁, before, since ++ rest, E₁, ?_, hbefore⟩
  rw [List.append_assoc, List.cons_append]

theorem run_of_stops {b : Option ι} {w : σ} {st : Statement} (h : s.Stops b w st)
    (rest : List Statement) :
    (s.executeAll b (st :: rest)).visible.run w = (s.enact st.request b).visible.run w := by
  rw [visible_executeAll_cons, run_bind]
  rcases ho : (s.enact st.request b).visible.run w with ⟨E, fault | b' | status, w'⟩
  · rfl
  · refine absurd ?_ (h b')
    exact congrArg Outcome.result ho
  · simp

theorem stops_or_passes (b : Option ι) (w : σ) (st : Statement) :
    s.Stops b w st ∨ ∃ E b' w', s.Passes b w [st] E b' w' := by
  by_cases h : s.Stops b w st
  · exact .inl h
  · simp only [Stops, ne_eq, Classical.not_forall, Classical.not_not] at h
    obtain ⟨b', hb'⟩ := h
    refine .inr ⟨Event.visible ((s.enact st.request b).run w).events, b',
      ((s.enact st.request b).run w).state, passes_singleton.2 ?_⟩
    rw [run_visible, hb']

/-- A run either carries out all its statements or stops at one of them, and then nothing follows
what that statement does. -/
theorem passes_or_stops (b : Option ι) (w : σ) (sts : List Statement) :
    (∃ E b' w', s.Passes b w sts E b' w') ∨
      ∃ done st rest E b' w', sts = done ++ st :: rest ∧ s.Passes b w done E b' w' ∧
        s.Stops b' w' st ∧ (s.executeAll b sts).visible.run w =
          ((s.enact st.request b').visible.run w').after E := by
  induction sts generalizing b w with
  | nil => exact .inl ⟨[], b, w, passes_nil.2 ⟨rfl, rfl, rfl⟩⟩
  | cons st rest ih =>
    rcases s.stops_or_passes b w st with hst | ⟨E₁, b₁, w₁, hfirst⟩
    · refine .inr ⟨[], st, rest, [], b, w, rfl, passes_nil.2 ⟨rfl, rfl, rfl⟩, hst, ?_⟩
      rw [run_of_stops hst]
      rfl
    · rcases ih b₁ w₁ with h | h
      · obtain ⟨E₂, b₂, w₂, hrest⟩ := h
        exact .inl ⟨_, b₂, w₂, passes_append.2 ⟨_, _, _, E₂, hfirst, hrest, rfl⟩⟩
      · obtain ⟨done, st', rest', E₂, b₂, w₂, rfl, hdone, hstop, hrun⟩ := h
        refine .inr ⟨st :: done, st', rest', _, b₂, w₂, rfl,
          passes_append.2 ⟨_, _, _, E₂, hfirst, hdone, rfl⟩, hstop, ?_⟩
        have h := run_of_passes hfirst (done ++ st' :: rest')
        simp only [List.singleton_append] at h
        rw [h, hrun]
        simp [Outcome.after]

end Session

end BatchScaler

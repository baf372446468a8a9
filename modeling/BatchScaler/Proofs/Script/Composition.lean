import BatchScaler.Proofs.Script.Reporting

namespace BatchScaler

variable {σ ι κ : Type}

namespace Session

open BatchScaler.Action

variable {s : Session σ ι κ}

theorem Advances.isProper {w w' : σ} {request : Option Request} {b b' : Option ι}
    {E : List (Event ι)} (h : s.Advances w request b E b' w') :
    ∃ r, request = some r ∧ r.IsProper := by
  cases h with
  | load | resize | save | saveWithQuality => exact ⟨_, rfl, trivial⟩

theorem Passes.isProper {b b' : Option ι} {w w' : σ} {sts : List Statement} {E : List (Event ι)}
    (h : s.Passes b w sts E b' w') :
    ∀ st ∈ sts, ∃ request, st.request = some request ∧ request.IsProper := by
  induction sts generalizing b w E with
  | nil => exact fun st hst ↦ absurd hst List.not_mem_nil
  | cons st rest ih =>
    obtain ⟨E₁, b₁, w₁, E₂, hst, hrest, rfl⟩ := passes_cons.1 h
    intro st' hst'
    rcases List.mem_cons.1 hst' with rfl | hst'
    · exact (advances_of_enact hst).isProper
    · exact ih hrest st' hst'

theorem exit_of_enact {request : Option Request} {b : Option ι} {w : σ}
    (h : ((s.enact request b).run w).result = .ok (.halt .done)) :
    ∃ n, request = some (.exit n) := by
  obtain ⟨work, report, -, -, -, hreport⟩ := enact_reports (s := s) w request b
  rw [h] at hreport
  cases hreport with
  | exit => exact ⟨_, rfl⟩

theorem passes_of_done {tokens : List Token} {w : σ}
    (hdone : ((s.runTokens tokens).run w).result = .ok .done)
    (hexit : ∀ st ∈ script ⟨tokens⟩, st.command ≠ "/EXIT") :
    ∃ E b w', s.Passes none w (script ⟨tokens⟩) E b w' := by
  rcases s.passes_or_stops none w (script ⟨tokens⟩) with
    h | ⟨done, st, rest, E, b, w', hsplit, -, hstop, hrun⟩
  · exact h
  · rw [← result_visible, runTokens, run_visible_runFrom, hrun] at hdone
    have hst : st ∈ script ⟨tokens⟩ := by
      rw [hsplit]
      exact List.mem_append_right done List.mem_cons_self
    rcases hr : ((s.enact st.request b).run w').result with fault | b' | status
    · simp [Outcome.map, result_visible, hr, Except.map] at hdone
    · exact absurd hr (hstop b')
    · obtain rfl : status = .done := by
        simpa [Outcome.map, result_visible, hr, Except.map, Flow.status] using hdone
      obtain ⟨n, hn⟩ := exit_of_enact hr
      obtain ⟨operands, hread⟩ := readFrom_of_mem_script hst
      exact absurd (Request.read_eq_exit (hread.request_eq.symm.trans hn)) (hexit st hst)

/-- What follows a script that is carried out to its end runs from what that script leaves. -/
theorem run_append_of_passes {p : List Token} {w w' : σ} {E : List (Event ι)} {b : Option ι}
    (h : s.Passes none w (script ⟨p⟩) E b w') (q : List Token) :
    (s.runTokens (p ++ q)).visible.run w =
      ((s.runFrom b (script ⟨q⟩)).visible.run w').after E := by
  have hrequests : (script ⟨p ++ q⟩).map Statement.request =
      (script ⟨p⟩ ++ script ⟨q⟩).map Statement.request := by
    rw [map_request_script_append h.isProper, List.map_append]
  rw [runTokens, run_visible_runFrom, visible_executeAll_congr hrequests, run_of_passes h,
    Outcome.map_after, run_visible_runFrom]

/-- Tokens that follow a script which is carried out to its end are a script of their own: it starts
from the buffer and the service that the first one leaves, and everything visible of the first one
stays as it is. -/
theorem runTokens_append {p : List Token} {w : σ}
    (hdone : ((s.runTokens p).run w).result = .ok .done)
    (hexit : ∀ st ∈ script ⟨p⟩, st.command ≠ "/EXIT") (q : List Token) :
    ∃ E b w', s.Passes none w (script ⟨p⟩) E b w' ∧
      (s.runTokens p).visible.run w = ⟨E, .ok .done, w'⟩ ∧
      (s.runTokens (p ++ q)).visible.run w =
        ((s.runFrom b (script ⟨q⟩)).visible.run w').after E := by
  obtain ⟨E, b, w', h⟩ := passes_of_done hdone hexit
  have hp : (s.runTokens p).visible.run w = ⟨E, .ok .done, w'⟩ := by
    rw [runTokens, run_visible_runFrom, h]
    rfl
  exact ⟨E, b, w', h, hp, run_append_of_passes h q⟩

theorem runTokens_append_save :
    ((Rehearsal.sample.runTokens
      (["/LOAD", "b", "/RESIZE", "0x0", "Scale2x(2)"].map some)).run {}).result = .ok .done ∧
    ∃ E b w', (Rehearsal.sample.runTokens
        (["/LOAD", "b", "/RESIZE", "0x0", "Scale2x(2)"].map some)).visible.run {} =
        ⟨E, .ok .done, w'⟩ ∧
      (Rehearsal.sample.runTokens (["/LOAD", "b", "/RESIZE", "0x0", "Scale2x(2)"].map some ++
        ["/SAVE", "c.png"].map some)).visible.run {} =
        ((Rehearsal.sample.runFrom b (script ⟨["/SAVE", "c.png"].map some⟩)).visible.run w').after
          E := by
  have hdone : ((Rehearsal.sample.runTokens
      (["/LOAD", "b", "/RESIZE", "0x0", "Scale2x(2)"].map some)).run {}).result = .ok .done := by
    decide +kernel
  obtain ⟨E, b, w', -, hp, hpq⟩ := runTokens_append hdone (by decide +kernel)
    (["/SAVE", "c.png"].map some)
  exact ⟨hdone, E, b, w', hp, hpq⟩

end Session

end BatchScaler

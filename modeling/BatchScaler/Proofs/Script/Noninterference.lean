import BatchScaler.Proofs.Script.Composition
import BatchScaler.Proofs.Script.Provenance
import BatchScaler.Proofs.Service.Calls

namespace BatchScaler

open BatchScaler.Action

variable {σ ι κ α : Type}

theorem Except.map_injective {α β : Type} {g : α → β} (hg : Function.Injective g)
    {x y : Except Fault α} (h : x.map g = y.map g) : x = y := by
  rcases x with fault | x <;> rcases y with fault' | y
  · cases h
    rfl
  · cases h
  · cases h
  · exact congrArg Except.ok (hg (Except.ok.inj h))

namespace Session

variable {s : Session σ ι κ} {R : σ → σ → Prop}

theorem ask_respects (hR : s.Indiscernible R) (call : Call ι κ) (hcall : s.MayAsk call)
    {request : Action LogRecord σ α} {g : α → Answer ι} (hg : Function.Injective g)
    (hanswer : s.service.answer call = request >>= fun x ↦ pure (g x)) {event : Event ι}
    (hevent : event.isVisible) : (ask event request).visible.Respects R := by
  intro w₁ w₂ h
  obtain ⟨hresult, hstate⟩ := hR call w₁ w₂ hcall h
  rw [hanswer, run_bind_pure, run_bind_pure] at hresult hstate
  rw [run_ask hevent, run_ask hevent]
  exact ⟨rfl, Except.map_injective hg hresult, hstate⟩

theorem applyOnce_respects (hR : s.Indiscernible R) {name : String} {f : NamedFilter κ}
    (hf : s.registry.resolve name = some f) (requested : Size) (image : ι) :
    (s.applyOnce f requested image).visible.Respects R := by
  have htimed : (Event.timed durationKey : Event ι).isVisible := rfl
  have hask : (ask (.applyFilter image f.name requested resizeEdge resizeEdge)
      (s.service.applyFilter image f requested resizeEdge resizeEdge)).visible.Respects R :=
    ask_respects hR (.applyFilter image f requested resizeEdge resizeEdge) ⟨name, hf⟩
      Answer.image_injective rfl rfl
  simp only [applyOnce, visible_bind, visible_thenReport _ htimed, visible_pure]
  refine .bind (hask.thenReport _) fun result ↦ .bind ?_ fun _ ↦ .pure R result
  rw [visible_report]
  exact .report R _

theorem applyTimes_respects (hR : s.Indiscernible R) {name : String} {f : NamedFilter κ}
    (hf : s.registry.resolve name = some f) (requested : Size) (n : Nat) (image : ι) :
    (s.applyTimes f requested n image).visible.Respects R := by
  induction n generalizing image with
  | zero => exact .pure R image
  | succ n ih =>
    simp only [applyTimes, visible_bind]
    exact .bind (applyOnce_respects hR hf requested image) ih

theorem refuse_respects (notice : Notice) :
    (refuse notice : Action (Event ι) σ (Flow ι)).visible.Respects R := by
  simp only [refuse, visible_bind, visible_notice, visible_pure]
  exact .bind (.report R _) fun _ ↦ .pure R _

theorem usageFailure_respects : s.usageFailure.visible.Respects R := by
  simp only [usageFailure, visible_bind, visible_showHelp, visible_pure]
  exact .bind (.report R _) fun _ ↦ .pure R _

theorem resizeImage_respects (hR : s.Indiscernible R) (dimensions : Dimensions)
    (spec : FilterSpec) (image : ι) :
    (s.resizeImage dimensions spec image).visible.Respects R := by
  simp only [resizeImage, visible_bind, visible_output]
  refine .bind (.report R _) fun _ ↦ ?_
  cases hf : s.registry.resolve spec.name with
  | none => exact refuse_respects _
  | some f =>
    simp only [visible_bind, visible_pure]
    exact .bind (applyTimes_respects hR hf _ _ image) fun image' ↦ .pure R _

theorem resize_respects (hR : s.Indiscernible R) (size filter : String) (b : Option ι) :
    (s.resize size filter b).visible.Respects R := by
  simp only [resize, visible_bind, visible_ofExcept]
  refine .bind (.ofExcept R _) fun size ↦ ?_
  cases size with
  | error rejection =>
    simp only [visible_bind, visible_log, pure_bind]
    exact usageFailure_respects
  | ok dimensions =>
    simp only [visible_bind, visible_ofExcept]
    refine .bind (.ofExcept R _) fun spec ↦ ?_
    cases b with
    | none => exact refuse_respects _
    | some image => exact resizeImage_respects hR dimensions spec image

theorem saveImage_respects (hR : s.Indiscernible R) (path : String) (image : ι) :
    (s.saveImage path image).visible.Respects R := by
  have hdone : Function.Injective fun _ : Unit ↦ (Answer.done : Answer ι) :=
    fun _ _ _ ↦ rfl
  unfold saveImage
  cases isJpegPath path with
  | false =>
    simp only [Bool.false_eq_true, if_false, visible_bind, visible_pure]
    exact .bind (ask_respects hR (.save image path) trivial hdone rfl rfl)
      fun _ ↦ .pure R _
  | true =>
    simp only [if_true, visible_bind]
    refine .bind (ask_respects hR (.hasEncoder jpegMime) trivial Answer.encoder_injective rfl rfl)
      fun available ↦ ?_
    cases available with
    | false => exact .pure R _
    | true =>
      simp only [if_true, visible_bind, visible_log, pure_bind, visible_pure]
      exact .bind (ask_respects hR (.saveWithQuality image path jpegMime jpegQuality) trivial hdone
        rfl rfl) fun _ ↦ .pure R _

theorem settleSave_respects (b : Option ι) (obstacle : Option Notice) :
    (settleSave b obstacle : Action (Event ι) σ (Flow ι)).Respects R := by
  cases obstacle with
  | none => exact .pure R _
  | some notice => exact .bind (.report R _) fun _ ↦ .pure R _

/-- What is seen of a statement, and how it ends, depends on nothing but the service's answers. -/
theorem enact_respects (hR : s.Indiscernible R) (request : Option Request) (b : Option ι) :
    (s.enact request b).visible.Respects R := by
  match request, b with
  | none, b =>
    simp only [enact, visible_bind, visible_showHelp, visible_pure]
    exact .bind (.report R _) fun _ ↦ .pure R _
  | some .incomplete, b => exact usageFailure_respects
  | some (.exit ignored), b =>
    rw [visible_enact_exit]
    exact .pure R _
  | some (.load path), b =>
    simp only [enact, perform, load, visible_bind, visible_pure]
    exact .bind (ask_respects hR (.load path) trivial Answer.image_injective rfl rfl)
      fun image ↦ .pure R _
  | some (.resize size filter), b => exact resize_respects hR size filter b
  | some (.save path), none =>
    simp only [enact, perform, save, pure_bind, visible_bind, visible_notice, visible_pure,
      bind_assoc, Bool.false_eq_true, if_false]
    exact .bind (.report R _) fun _ ↦ .pure R _
  | some (.save path), some image =>
    simp only [enact]
    rw [visible_perform_save path (some image) image rfl]
    exact .bind (saveImage_respects hR path image) (settleSave_respects _)

theorem executeAll_respects (hR : s.Indiscernible R) (b : Option ι) (sts : List Statement) :
    (s.executeAll b sts).visible.Respects R := by
  induction sts generalizing b with
  | nil => exact .pure R _
  | cons st rest ih =>
    rw [visible_executeAll_cons]
    refine .bind (enact_respects hR st.request b) fun flow ↦ ?_
    cases flow with
    | next b' => exact ih b'
    | halt status => exact .pure R _

theorem leads_of_passes {b b' : Option ι} {w w' : σ} {sts : List Statement} {E : List (Event ι)}
    (h : s.Passes b w sts E b' w') : s.Leads w w' := by
  obtain ⟨-, -, hleads, -⟩ :=
    executeAll_respects (indiscernible_leads (s := s) w) b sts w w ⟨.refl w, rfl⟩
  rw [h] at hleads
  exact hleads

/-- Runs from states with the same answers look the same. -/
theorem visible_runFrom_alike {w₁ w₂ : σ} (h : s.Alike w₁ w₂) (b : Option ι)
    (sts : List Statement) :
    ∃ E result v₁ v₂, (s.runFrom b sts).visible.run w₁ = ⟨E, result, v₁⟩ ∧
      (s.runFrom b sts).visible.run w₂ = ⟨E, result, v₂⟩ ∧ s.Alike v₁ v₂ := by
  obtain ⟨hevents, hresult, hstate⟩ := executeAll_respects indiscernible_alike b sts w₁ w₂ h
  rw [run_visible_runFrom, run_visible_runFrom]
  rcases h₁ : (s.executeAll b sts).visible.run w₁ with ⟨E₁, result₁, v₁⟩
  rcases h₂ : (s.executeAll b sts).visible.run w₂ with ⟨E₂, result₂, v₂⟩
  rw [h₁, h₂] at hevents hresult hstate
  obtain rfl : E₁ = E₂ := hevents
  obtain rfl : result₁ = result₂ := hresult
  exact ⟨E₁, _, v₁, v₂, rfl, rfl, hstate⟩

/-- A load does not look at the buffer. -/
theorem visible_runFrom_load (b b' : Option ι) (path : String) (rest : List Token) :
    (s.runFrom b (script ⟨some "/LOAD" :: some path :: rest⟩)).visible =
      (s.runFrom b' (script ⟨some "/LOAD" :: some path :: rest⟩)).visible := by
  apply Action.ext
  intro w
  rw [run_visible_runFrom, run_visible_runFrom, script_load, visible_executeAll_cons,
    visible_executeAll_cons]
  rfl

/-- A save that goes well changes none of the answers to the calls that follow. -/
def SavesUnnoticed (s : Session σ ι κ) (w : σ) : Prop :=
  ∀ image path w₁ w₂, s.Leads w w₁ → s.service.Saved image path w₁ w₂ → s.Alike w₁ w₂

theorem enact_of_saved {path : String} {image : ι} {w w' : σ}
    (h : s.service.Saved image path w w') :
    ∃ asked e, HandsOver path image asked e ∧
      (s.enact (some (.save path)) (some image)).visible.run w =
        ⟨asked ++ [e], .ok (.next (some image)), w'⟩ := by
  have hstep := enacts_enact (s := s) w (some (.save path)) (some image)
  generalize (s.enact (some (.save path)) (some image)).visible.run w = outcome at hstep ⊢
  cases h with
  | plain hj hs =>
    cases hstep with
    | save _ ho =>
      obtain ⟨hresult, hstate⟩ := hs
      rw [ho] at hresult hstate
      exact ⟨[], _, .plain hj, by rw [hresult, hstate]; rfl⟩
    | probeFault hj' | missingEncoder hj' | saveWithQuality hj' => cases hj.symm.trans hj'
  | jpeg hj he hq =>
    cases hstep with
    | save hj' => cases hj'.symm.trans hj
    | probeFault _ ho hr =>
      cases hr.symm.trans ((congrArg Outcome.result ho).symm.trans he.1)
    | missingEncoder _ he' => cases he.1.symm.trans he'.1
    | saveWithQuality _ he' ho =>
      obtain ⟨hresult, hstate⟩ := hq
      obtain rfl := he.2.symm.trans he'.2
      rw [ho] at hresult hstate
      exact ⟨[.hasEncoder jpegMime], _, .jpeg hj, by rw [hresult, hstate]; rfl⟩

end Session

namespace Rehearsal

theorem savesUnnoticed (r : Rehearsal) (filters : List (NamedFilter SketchedFilter))
    (program : String) (w : Tally) : (r.session filters program).SavesUnnoticed w := by
  intro image path w₁ w₂ _ hsave
  cases hsave with
  | plain hj hs =>
    obtain ⟨-, hstate⟩ := hs
    simp only [session, service] at hstate
    rw [run_save] at hstate
    exact hstate ▸ .refl w₁
  | jpeg hj he hq =>
    obtain ⟨-, rfl⟩ := he
    obtain ⟨-, hstate⟩ := hq
    simp only [session, service] at hstate
    rw [run_save] at hstate
    exact hstate ▸ .refl w₁

end Rehearsal

namespace Session

variable {s : Session σ ι κ}

/-- Whatever two scripts did before a load, all that is seen from the load on is the same after
either of them. -/
theorem cycles_isolated {p₁ p₂ : List Token} {w w₁ w₂ : σ} {E₁ E₂ : List (Event ι)}
    {b₁ b₂ : Option ι} (hs : s.Steady w) (h₁ : s.Passes none w (script ⟨p₁⟩) E₁ b₁ w₁)
    (h₂ : s.Passes none w (script ⟨p₂⟩) E₂ b₂ w₂) (path : String) (r : List Token) :
    ∃ E result v₁ v₂,
      (s.runTokens (p₁ ++ [some "/LOAD", some path] ++ r)).visible.run w =
        ⟨E₁ ++ E, result, v₁⟩ ∧
      (s.runTokens (p₂ ++ [some "/LOAD", some path] ++ r)).visible.run w =
        ⟨E₂ ++ E, result, v₂⟩ ∧ s.Alike v₁ v₂ := by
  have halike : s.Alike w₁ w₂ := hs.alike (leads_of_passes h₁) (leads_of_passes h₂)
  obtain ⟨E, result, v₁, v₂, hrun₁, hrun₂, hv⟩ :=
    visible_runFrom_alike halike b₁ (script ⟨some "/LOAD" :: some path :: r⟩)
  refine ⟨E, result, v₁, v₂, ?_, ?_, hv⟩
  · rw [List.append_assoc, run_append_of_passes h₁]
    exact congrArg (Outcome.after · E₁) hrun₁
  · rw [List.append_assoc, run_append_of_passes h₂]
    rw [visible_runFrom_load b₁ b₂] at hrun₂
    exact congrArg (Outcome.after · E₂) hrun₂

theorem cycles_isolated_after_resize :
    ∃ E₁ b₁ w₁, Rehearsal.sample.Steady {} ∧
      Rehearsal.sample.Passes none {} (script ⟨["/LOAD", "a", "/RESIZE", "0x6", "pixel(2)",
        "/SAVE", "c.png"].map some⟩) E₁ b₁ w₁ ∧
      Rehearsal.sample.Passes none {} (script ⟨[]⟩) [] none {} ∧
      ∃ E result v₁ v₂,
        (Rehearsal.sample.runTokens (["/LOAD", "a", "/RESIZE", "0x6", "pixel(2)", "/SAVE",
          "c.png"].map some ++ [some "/LOAD", some "b"] ++
          ["/RESIZE", "0x0", "scale2X(3)", "/SAVE", "d.jpg"].map some)).visible.run {} =
          ⟨E₁ ++ E, result, v₁⟩ ∧
        (Rehearsal.sample.runTokens ([] ++ [some "/LOAD", some "b"] ++
          ["/RESIZE", "0x0", "scale2X(3)", "/SAVE", "d.jpg"].map some)).visible.run {} =
          ⟨[] ++ E, result, v₂⟩ ∧ Rehearsal.sample.Alike v₁ v₂ := by
  have hsteady : Rehearsal.sample.Steady {} := Rehearsal.steady _ _ (by decide) {}
  have hresult : ((Rehearsal.sample.executeAll none (script ⟨["/LOAD", "a", "/RESIZE", "0x6",
      "pixel(2)", "/SAVE", "c.png"].map some⟩)).run {}).result =
      .ok (.next (some ⟨"a", 4, 6, ["Pixel", "Pixel"]⟩)) := by
    decide +kernel
  have hcycle := passes_of_result hresult
  have hnothing : Rehearsal.sample.Passes none {} (script ⟨[]⟩) [] none {} := by
    rw [script_nil]
    exact passes_nil.2 ⟨rfl, rfl, rfl⟩
  exact ⟨_, _, _, hsteady, hcycle, hnothing, cycles_isolated hsteady hcycle hnothing "b" _⟩

/-- A save that goes well adds what it asks of the service, and nothing else is seen of it. -/
theorem save_transparent {p : List Token} {w w₁ w₂ : σ} {E : List (Event ι)} {image : ι}
    {path : String} (hs : s.SavesUnnoticed w)
    (hp : s.Passes none w (script ⟨p⟩) E (some image) w₁)
    (hsave : s.service.Saved image path w₁ w₂) (r : List Token) :
    ∃ asked e F result v₁ v₂, HandsOver path image asked e ∧
      (s.runTokens (p ++ r)).visible.run w = ⟨E ++ F, result, v₁⟩ ∧
      (s.runTokens (p ++ [some "/SAVE", some path] ++ r)).visible.run w =
        ⟨E ++ (asked ++ [e] ++ F), result, v₂⟩ ∧ s.Alike v₁ v₂ := by
  have halike : s.Alike w₁ w₂ := hs image path w₁ w₂ (leads_of_passes hp) hsave
  obtain ⟨asked, e, hhands, henact⟩ := enact_of_saved hsave
  obtain ⟨F, result, v₁, v₂, hrun₁, hrun₂, hv⟩ :=
    visible_runFrom_alike halike (some image) (script ⟨r⟩)
  refine ⟨asked, e, F, result, v₁, v₂, hhands, ?_, ?_, hv⟩
  · rw [run_append_of_passes hp, hrun₁]
    rfl
  · have hfirst : (s.runFrom (some image) (script ⟨some "/SAVE" :: some path :: r⟩)).visible.run
        w₁ = ((s.runFrom (some image) (script ⟨r⟩)).visible.run w₂).after (asked ++ [e]) := by
      rw [run_visible_runFrom, script_save, visible_executeAll_cons, run_bind, henact,
        Outcome.andThen_ok, Outcome.map_after, run_visible_runFrom]
    rw [List.append_assoc, run_append_of_passes hp]
    exact congrArg (Outcome.after · E) (hfirst.trans (congrArg (Outcome.after · _) hrun₂))

theorem save_transparent_before_resize :
    ∃ E w₁, Rehearsal.sampleWithJpeg.SavesUnnoticed {} ∧
      Rehearsal.sampleWithJpeg.Passes none {} (script ⟨["/LOAD", "a"].map some⟩) E
        (some ⟨"a", 4, 3, []⟩) w₁ ∧
      Rehearsal.sampleWithJpeg.service.Saved ⟨"a", 4, 3, []⟩ "b.jpg" w₁ w₁ ∧
      ∃ asked e F result v₁ v₂, HandsOver "b.jpg" (⟨"a", 4, 3, []⟩ : SketchedImage) asked e ∧
        (Rehearsal.sampleWithJpeg.runTokens (["/LOAD", "a"].map some ++
          ["/RESIZE", "0x0", "Scale2x(2)", "/SAVE", "c.png"].map some)).visible.run {} =
          ⟨E ++ F, result, v₁⟩ ∧
        (Rehearsal.sampleWithJpeg.runTokens (["/LOAD", "a"].map some ++
          [some "/SAVE", some "b.jpg"] ++
          ["/RESIZE", "0x0", "Scale2x(2)", "/SAVE", "c.png"].map some)).visible.run {} =
          ⟨E ++ (asked ++ [e] ++ F), result, v₂⟩ ∧ Rehearsal.sampleWithJpeg.Alike v₁ v₂ := by
  have hunnoticed : Rehearsal.sampleWithJpeg.SavesUnnoticed {} :=
    Rehearsal.savesUnnoticed _ _ _ {}
  have hresult : ((Rehearsal.sampleWithJpeg.executeAll none
      (script ⟨["/LOAD", "a"].map some⟩)).run {}).result = .ok (.next (some ⟨"a", 4, 3, []⟩)) := by
    decide +kernel
  have hloaded := passes_of_result hresult
  have hsaved : Rehearsal.sampleWithJpeg.service.Saved ⟨"a", 4, 3, []⟩ "b.jpg"
      ((Rehearsal.sampleWithJpeg.executeAll none (script ⟨["/LOAD", "a"].map some⟩)).run {}).state
      ((Rehearsal.sampleWithJpeg.executeAll none
        (script ⟨["/LOAD", "a"].map some⟩)).run {}).state :=
    .jpeg (by decide +kernel) ⟨rfl, rfl⟩ ⟨rfl, rfl⟩
  exact ⟨_, _, hunnoticed, hloaded, hsaved, save_transparent hunnoticed hloaded hsaved _⟩

end Session

end BatchScaler

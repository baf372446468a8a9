import BatchScaler.Proofs.Script.Visible

namespace BatchScaler

variable {σ ι κ α : Type} (s : Session σ ι κ)

namespace Session

open BatchScaler.Action

/-- What a statement does, apart from what is logged about it. -/
def enact : Option Request → Option ι → Action (Event ι) σ (Flow ι)
  | none, _ => do
    s.showHelp
    return .halt .unknownCommand
  | some request, buffer => s.perform request buffer

def helpEvent : Event ι :=
  .output (helpOutput s.program s.registry.names)

@[simp] theorem visible_log (severity : Severity) (category text : String) :
    (log severity category text : Action (Event ι) σ Unit).visible = pure () := by
  rw [log, visible_report]
  rfl

@[simp] theorem visible_showHelp : s.showHelp.visible = report s.helpEvent := by
  rw [showHelp, visible_report]
  rfl

@[simp] theorem visible_notice (notice : Notice) :
    (report (.notice notice) : Action (Event ι) σ Unit).visible = report (.notice notice) := by
  rw [visible_report]
  rfl

@[simp] theorem visible_output (text : String) :
    (report (.output text) : Action (Event ι) σ Unit).visible = report (.output text) := by
  rw [visible_report]
  rfl

theorem visible_ask {event : Event ι} (h : event.isVisible) (request : Action LogRecord σ α) :
    (ask event request).visible = report event >>= fun _ ↦ request.silent := by
  simp only [ask, visible_bind, visible_report, h, if_true, visible_mapEvents]

theorem run_ask {event : Event ι} (h : event.isVisible) (request : Action LogRecord σ α) (w : σ) :
    (ask event request).visible.run w =
      ⟨[event], (request.run w).result, (request.run w).state⟩ := by
  rw [visible_ask h, run_bind, run_report, Outcome.andThen_ok, run_silent]
  rfl

theorem run_applyOnce (f : NamedFilter κ) (requested : Size) (image : ι) (w : σ) :
    (s.applyOnce f requested image).visible.run w =
      (⟨[.applyFilter image f.name requested resizeEdge resizeEdge, .timed durationKey],
        ((s.service.applyFilter image f requested resizeEdge resizeEdge).run w).result,
        ((s.service.applyFilter image f requested resizeEdge resizeEdge).run w).state⟩ :
          Outcome (Event ι) σ ι).andThen fun result ↦ do
        report (.counted appliedKey)
        return result := by
  have htimed : (Event.timed durationKey : Event ι).isVisible := rfl
  have hcounted : (report (.counted appliedKey) : Action (Event ι) σ Unit).visible =
      report (.counted appliedKey) := by
    rw [visible_report]
    rfl
  simp only [applyOnce, visible_bind, visible_thenReport _ htimed, hcounted, visible_pure]
  rw [run_bind, run_thenReport, run_ask rfl]
  rfl

theorem yields_applyOnce {f : NamedFilter κ} {requested : Size} {image image' : ι} {w w' : σ} :
    (s.applyOnce f requested image).Yields w image' w' ↔
      (s.service.applyFilter image f requested resizeEdge resizeEdge).Yields w image' w' := by
  unfold Yields
  rw [← result_visible, ← state_visible, run_applyOnce]
  rcases (s.service.applyFilter image f requested resizeEdge resizeEdge).run w with
    ⟨logs, fault | x, t⟩
  · exact Iff.rfl
  · exact Iff.rfl

def IsApplication (event : Event ι) : Prop :=
  (∃ image name requested, event = .applyFilter image name requested resizeEdge resizeEdge) ∨
    event = .timed durationKey ∨ event = .counted appliedKey

theorem applyTimes_isApplication (f : NamedFilter κ) (requested : Size) (n : Nat) (image : ι)
    (w : σ) :
    ∀ event ∈ ((s.applyTimes f requested n image).visible.run w).events, IsApplication event := by
  induction n generalizing image w with
  | zero => exact fun event h ↦ absurd h List.not_mem_nil
  | succ n ih =>
    have hasked : IsApplication (.applyFilter image f.name requested resizeEdge resizeEdge) :=
      .inl ⟨image, f.name, requested, rfl⟩
    simp only [applyTimes, visible_bind]
    rw [run_bind, run_applyOnce]
    rcases ((s.service.applyFilter image f requested resizeEdge resizeEdge).run w).result with
      fault | image'
    · intro event h
      simp only [Outcome.andThen_error, List.mem_cons, List.not_mem_nil, or_false] at h
      rcases h with rfl | rfl
      · exact hasked
      · exact .inr (.inl rfl)
    · intro event h
      simp only [Outcome.andThen_ok, run_bind, run_report, run_pure, Outcome.after_mk,
        Outcome.events_after, List.cons_append, List.nil_append, List.mem_cons] at h
      rcases h with rfl | rfl | rfl | h
      · exact hasked
      · exact .inr (.inl rfl)
      · exact .inr (.inr rfl)
      · exact ih _ _ event h

theorem visible_execute (st : Statement) (buffer : Option ι) :
    (s.execute st buffer).visible = (s.enact st.request buffer).visible := by
  unfold execute
  split
  · next h => simp [h, enact, refuseCommand]
  · next request h =>
    have hstep : ∀ flow : Flow ι, (report (.stepped st.command flow st.leftAfter) :
        Action (Event ι) σ Unit).visible = pure () := by
      intro flow
      rw [visible_report]
      rfl
    simp only [h, enact, executeRequest, visible_bind, visible_log, pure_bind, hstep]
    refine Eq.trans ?_ (bind_pure _)
    congr 1
    funext flow
    cases flow <;> simp only [visible_bind, visible_log, visible_pure, pure_bind]

theorem visible_enact_exit (ignored : Nat) (b : Option ι) :
    (s.enact (some (.exit ignored)) b).visible = pure (.halt .done) := by
  simp only [enact, perform, exit]
  split <;> simp only [visible_bind, visible_log, visible_pure, pure_bind]

theorem result_execute (st : Statement) (b : Option ι) (w : σ) :
    ((s.execute st b).run w).result = ((s.enact st.request b).run w).result := by
  rw [← result_visible, visible_execute, result_visible]

/-- Everything that can come of a statement at the service state `w`, seen by its visible events. -/
inductive Enacts (w : σ) : Option Request → Option ι → Outcome (Event ι) σ (Flow ι) → Prop
  | unknown {b : Option ι} : Enacts w none b ⟨[s.helpEvent], .ok (.halt .unknownCommand), w⟩
  | exit {ignored : Nat} {b : Option ι} : Enacts w (some (.exit ignored)) b ⟨[], .ok (.halt .done), w⟩
  | incomplete {b : Option ι} :
      Enacts w (some .incomplete) b ⟨[s.helpEvent], .ok (.halt .failed), w⟩
  | load {path : String} {b : Option ι} {o : Outcome LogRecord σ ι}
      (ho : (s.service.load path).run w = o) :
      Enacts w (some (.load path)) b
        ⟨[.load path], o.result.map fun image ↦ .next (some image), o.state⟩
  | unreadableSize {size filter : String} {b : Option ι} {fault : Fault}
      (hd : Dimensions.parse size = .error fault) :
      Enacts w (some (.resize size filter)) b ⟨[], .error fault, w⟩
  | badSize {size filter : String} {b : Option ι} {rejection : Dimensions.Rejection}
      (hd : Dimensions.parse size = .ok (.error rejection)) :
      Enacts w (some (.resize size filter)) b ⟨[s.helpEvent], .ok (.halt .failed), w⟩
  | unreadableCount {size filter : String} {b : Option ι} {dimensions : Dimensions} {fault : Fault}
      (hd : Dimensions.parse size = .ok (.ok dimensions))
      (hf : FilterSpec.parse filter = .error fault) :
      Enacts w (some (.resize size filter)) b ⟨[], .error fault, w⟩
  | nothingToResize {size filter : String} {dimensions : Dimensions} {spec : FilterSpec}
      (hd : Dimensions.parse size = .ok (.ok dimensions)) (hf : FilterSpec.parse filter = .ok spec) :
      Enacts w (some (.resize size filter)) none
        ⟨[.notice .nothingToResize], .ok (.halt .failed), w⟩
  | unknownFilter {size filter : String} {image : ι} {dimensions : Dimensions} {spec : FilterSpec}
      (hd : Dimensions.parse size = .ok (.ok dimensions)) (hf : FilterSpec.parse filter = .ok spec)
      (hr : s.registry.resolve spec.name = none) :
      Enacts w (some (.resize size filter)) (some image)
        ⟨[.output (resizeLine dimensions spec), .notice (.unknownFilter spec.name)],
          .ok (.halt .failed), w⟩
  | resize {size filter : String} {image : ι} {dimensions : Dimensions} {spec : FilterSpec}
      {f : NamedFilter κ} {o : Outcome (Event ι) σ ι}
      (hd : Dimensions.parse size = .ok (.ok dimensions)) (hf : FilterSpec.parse filter = .ok spec)
      (hr : s.registry.resolve spec.name = some f)
      (ho : (s.applyTimes f ⟨dimensions.width, dimensions.height⟩ spec.repeats image).visible.run w
        = o) :
      Enacts w (some (.resize size filter)) (some image)
        ⟨.output (resizeLine dimensions spec) :: o.events,
          o.result.map fun image ↦ .next (some image), o.state⟩
  | nothingToSave {path : String} :
      Enacts w (some (.save path)) none ⟨[.notice .nothingToSave], .ok (.halt .failed), w⟩
  | save {path : String} {image : ι} {o : Outcome LogRecord σ Unit}
      (hj : isJpegPath path = false) (ho : (s.service.save image path).run w = o) :
      Enacts w (some (.save path)) (some image)
        ⟨[.save path image], o.result.map fun _ ↦ .next (some image), o.state⟩
  | probeFault {path : String} {image : ι} {fault : Fault} {o : Outcome LogRecord σ Bool}
      (hj : isJpegPath path = true) (ho : (s.service.hasEncoder jpegMime).run w = o)
      (hr : o.result = .error fault) :
      Enacts w (some (.save path)) (some image)
        ⟨[.hasEncoder jpegMime], .error fault, o.state⟩
  | missingEncoder {path : String} {image : ι} {w' : σ} (hj : isJpegPath path = true)
      (he : (s.service.hasEncoder jpegMime).Yields w false w') :
      Enacts w (some (.save path)) (some image)
        ⟨[.hasEncoder jpegMime, .notice (.missingEncoder jpegMime)], .ok (.halt .failed), w'⟩
  | saveWithQuality {path : String} {image : ι} {w' : σ} {o : Outcome LogRecord σ Unit}
      (hj : isJpegPath path = true) (he : (s.service.hasEncoder jpegMime).Yields w true w')
      (ho : (s.service.saveWithQuality image path jpegMime jpegQuality).run w' = o) :
      Enacts w (some (.save path)) (some image)
        ⟨[.hasEncoder jpegMime, .saveWithQuality path image jpegMime jpegQuality],
          o.result.map fun _ ↦ .next (some image), o.state⟩

variable {s}

theorem enacts_load (w : σ) (path : String) (b : Option ι) :
    s.Enacts w (some (.load path)) b ((s.enact (some (.load path)) b).visible.run w) := by
  simp only [enact, perform, load, visible_bind, visible_pure]
  rw [run_bind_pure, run_ask rfl]
  exact .load rfl

theorem enacts_resizeImage (w : σ) {size filter : String} {dimensions : Dimensions}
    {spec : FilterSpec} (hd : Dimensions.parse size = .ok (.ok dimensions))
    (hf : FilterSpec.parse filter = .ok spec) (image : ι) :
    s.Enacts w (some (.resize size filter)) (some image)
      ((s.resizeImage dimensions spec image).visible.run w) := by
  unfold resizeImage
  cases hr : s.registry.resolve spec.name with
  | none =>
    simp only [refuse, visible_bind, visible_output, visible_notice, visible_pure, run_bind,
      run_report, Outcome.andThen_ok, run_pure]
    exact .unknownFilter hd hf hr
  | some f =>
    simp only [visible_bind, visible_output, visible_pure]
    rw [run_bind, run_report, Outcome.andThen_ok, run_bind_pure]
    exact .resize hd hf hr rfl

theorem enacts_resize (w : σ) (size filter : String) (b : Option ι) :
    s.Enacts w (some (.resize size filter)) b
      ((s.enact (some (.resize size filter)) b).visible.run w) := by
  simp only [enact, perform, resize, visible_bind, visible_ofExcept]
  rw [run_bind, run_ofExcept]
  rcases hd : Dimensions.parse size with fault | rejection | dimensions
  · exact .unreadableSize hd
  · simp only [Outcome.andThen_ok, usageFailure, visible_bind, visible_log, visible_showHelp,
      pure_bind, run_bind, run_report, visible_pure, run_pure]
    exact .badSize hd
  simp only [Outcome.andThen_ok, visible_bind, visible_ofExcept]
  rw [run_bind, run_ofExcept]
  rcases hf : FilterSpec.parse filter with fault | spec
  · exact .unreadableCount hd hf
  simp only [Outcome.andThen_ok]
  cases b with
  | none =>
    simp only [refuse, visible_bind, visible_notice, visible_pure, run_bind, run_report,
      Outcome.andThen_ok, run_pure]
    exact .nothingToResize hd hf
  | some image => exact enacts_resizeImage w hd hf image

def settleSave (b : Option ι) : Option Notice → Action (Event ι) σ (Flow ι)
  | none => pure (.next b)
  | some notice => do
    report (.notice notice)
    return .halt .failed

theorem visible_perform_save (path : String) (b : Option ι) (image : ι) (hb : b = some image) :
    (s.perform (.save path) b).visible = (s.saveImage path image).visible >>= settleSave b := by
  subst hb
  simp only [perform, save, visible_bind]
  rw [bind_assoc]
  congr 1
  funext obstacle
  cases obstacle with
  | none => simp only [settleSave, visible_pure, pure_bind, if_true]
  | some notice =>
    simp only [settleSave, visible_bind, visible_notice, visible_pure, bind_assoc, pure_bind]
    rfl

theorem enacts_saveImage (w : σ) (path : String) (image : ι) :
    s.Enacts w (some (.save path)) (some image)
      ((s.enact (some (.save path)) (some image)).visible.run w) := by
  simp only [enact]
  rw [visible_perform_save path (some image) image rfl, run_bind]
  unfold saveImage
  cases hj : isJpegPath path with
  | false =>
    simp only [Bool.false_eq_true, if_false, visible_bind, visible_pure]
    rw [run_bind_pure, run_ask rfl]
    rcases ho : (s.service.save image path).run w with ⟨logs, fault | done, w'⟩
    · exact .save hj ho
    · exact .save hj ho
  | true =>
    simp only [if_true, visible_bind]
    rw [run_bind, run_ask rfl]
    rcases ho : (s.service.hasEncoder jpegMime).run w with ⟨logs, fault | answer, w'⟩
    · exact .probeFault hj ho rfl
    cases answer with
    | false =>
      have he : (s.service.hasEncoder jpegMime).Yields w false w' := ⟨by rw [ho], by rw [ho]⟩
      exact .missingEncoder hj he
    | true =>
      have he : (s.service.hasEncoder jpegMime).Yields w true w' := ⟨by rw [ho], by rw [ho]⟩
      simp only [Outcome.andThen_ok, if_true, visible_bind, visible_log, pure_bind, visible_pure]
      rw [run_bind_pure, run_ask rfl]
      rcases hq : (s.service.saveWithQuality image path jpegMime jpegQuality).run w' with
        ⟨logs', fault | done, w''⟩
      · exact .saveWithQuality hj he hq
      · exact .saveWithQuality hj he hq

theorem enacts_enact (w : σ) (request : Option Request) (b : Option ι) :
    s.Enacts w request b ((s.enact request b).visible.run w) := by
  match request, b with
  | none, b =>
    simp only [enact, visible_bind, visible_showHelp, visible_pure]
    rw [run_bind_pure]
    exact .unknown
  | some .incomplete, b =>
    simp only [enact, perform, usageFailure, visible_bind, visible_showHelp, visible_pure]
    rw [run_bind_pure]
    exact .incomplete
  | some (.exit ignored), b =>
    rw [visible_enact_exit]
    exact .exit
  | some (.load path), b => exact enacts_load w path b
  | some (.resize size filter), b => exact enacts_resize w size filter b
  | some (.save path), none =>
    simp only [enact, perform, save, pure_bind, visible_bind, visible_notice, visible_pure]
    exact .nothingToSave
  | some (.save path), some image => exact enacts_saveImage w path image

inductive Advances (s : Session σ ι κ) (w : σ) :
    Option Request → Option ι → List (Event ι) → Option ι → σ → Prop
  | load {path : String} {b : Option ι} {image : ι} {w' : σ}
      (hl : (s.service.load path).Yields w image w') :
      Advances s w (some (.load path)) b [.load path] (some image) w'
  | resize {size filter : String} {image image' : ι} {dimensions : Dimensions} {spec : FilterSpec}
      {f : NamedFilter κ} {E : List (Event ι)} {w' : σ}
      (hd : Dimensions.parse size = .ok (.ok dimensions)) (hf : FilterSpec.parse filter = .ok spec)
      (hr : s.registry.resolve spec.name = some f)
      (ha : (s.applyTimes f ⟨dimensions.width, dimensions.height⟩ spec.repeats image).Yields w
        image' w') :
      Advances s w (some (.resize size filter)) (some image) E (some image') w'
  | save {path : String} {image : ι} {w' : σ} (hj : isJpegPath path = false)
      (hs : (s.service.save image path).Yields w () w') :
      Advances s w (some (.save path)) (some image) [.save path image] (some image) w'
  | saveWithQuality {path : String} {image : ι} {w' w'' : σ} (hj : isJpegPath path = true)
      (he : (s.service.hasEncoder jpegMime).Yields w true w')
      (hq : (s.service.saveWithQuality image path jpegMime jpegQuality).Yields w' () w'') :
      Advances s w (some (.save path)) (some image)
        [.hasEncoder jpegMime, .saveWithQuality path image jpegMime jpegQuality] (some image) w''

theorem advances_of_enact {request : Option Request} {b b' : Option ι} {w w' : σ}
    {E : List (Event ι)} (h : (s.enact request b).visible.run w = ⟨E, .ok (.next b'), w'⟩) :
    s.Advances w request b E b' w' := by
  have hstep := enacts_enact (s := s) w request b
  generalize (s.enact request b).visible.run w = outcome at h hstep
  cases hstep with
  | @load path b o ho =>
    rcases o with ⟨logs, fault | image, w₁⟩ <;> cases h
    exact .load ⟨congrArg Outcome.result ho, congrArg Outcome.state ho⟩
  | @resize size filter image dimensions spec f o hd hf hr ho =>
    rcases o with ⟨events, fault | image', w₁⟩ <;> cases h
    exact .resize hd hf hr (yields_of_visible ho)
  | @save path image o hj ho =>
    rcases o with ⟨logs, fault | done, w₁⟩ <;> cases h
    exact .save hj ⟨congrArg Outcome.result ho, congrArg Outcome.state ho⟩
  | @saveWithQuality path image w₁ o hj he ho =>
    rcases o with ⟨logs, fault | done, w₂⟩ <;> cases h
    exact .saveWithQuality hj he ⟨congrArg Outcome.result ho, congrArg Outcome.state ho⟩
  | _ => cases h

end Session

end BatchScaler

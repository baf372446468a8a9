import BatchScaler.Proofs.Picture.Enlargement
import BatchScaler.Proofs.Script.Repetition
import BatchScaler.Proofs.Script.ResizedSize

namespace BatchScaler

open BatchScaler.Action Session

variable {α : Type}

def Interpolator.KeepsAtOne (e : Interpolator α) : Prop :=
  ∀ (kernel : Kernel) (horizontal vertical : Scale) (r : Raster α) (x y : ℕ) (c : α),
    horizontal.target = horizontal.source → vertical.target = vertical.source →
      e.colour kernel horizontal vertical r x y c = c

section Rasters

variable {e : Interpolator α} {r : Raster α} {horizontal vertical : Scale}

theorem Raster.resample_of_one (he : e.KeepsAtOne) (hh : horizontal.target = horizontal.source)
    (hv : vertical.target = vertical.source) (kernel : Kernel) (width height : ℕ)
    (hwidth : 0 < r.width) (hheight : 0 < r.height) :
    r.resample e kernel horizontal vertical width height hwidth hheight =
      r.resample e .nearest horizontal vertical width height hwidth hheight := by
  refine congrArg (Raster.ofFn width height) (funext₂ fun x y ↦ ?_)
  cases kernel with
  | nearest => rfl
  | _ => exact he _ horizontal vertical r x y _ hh hv

theorem Step.run_of_one (he : e.KeepsAtOne) (hh : horizontal.target = horizontal.source)
    (hv : vertical.target = vertical.source) (kernel : Kernel) (r : Raster α) :
    run e r (.resize horizontal vertical kernel) =
      run e r (.resize horizontal vertical .nearest) := by
  simp only [run, Raster.resample_of_one he hh hv kernel]

theorem Raster.resampleTo_of_one (he : e.KeepsAtOne) {aim : Aim}
    (hh : aim.horizontal.target = aim.horizontal.source)
    (hv : aim.vertical.target = aim.vertical.source) (kernel : Kernel) (xMode yMode : EdgeMode) :
    r.resampleTo e kernel aim xMode yMode = r.resampleTo e .nearest aim xMode yMode := by
  simp only [resampleTo, kernelSteps, bind_assoc, pure_bind, Step.runAll_append,
    Step.runAll_singleton, Step.run_of_one he hh hv kernel]

/-- The margin that a raster gets is cut off again, however it was filled. -/
theorem Raster.resampleTo_own (he : e.KeepsAtOne) (hr : r.size.Positive) (hwidth : r.width < 2 ^ 49)
    (hheight : r.height < 2 ^ 49) (kernel : Kernel) (xMode yMode : EdgeMode) :
    r.resampleTo e kernel (.times 1 1 r.width r.height) xMode yMode = .ok r := by
  have hnear : ¬(Aim.times 1 1 r.width r.height).TooFar := by
    norm_num [Aim.TooFar, Aim.times, Scale.times, maxFactor]
  obtain ⟨r', hrun, hsize, hshows⟩ := resampleTo_times (e := e) hr one_pos one_pos hnear
    (by rwa [one_mul]) (by rwa [one_mul]) xMode yMode
  rw [one_mul, one_mul] at hsize
  obtain ⟨hwidth', hheight'⟩ := sides_of_size hsize
  have hsame : r.Shows r' id id := hshows.congr (fun x _ ↦ x.div_one) fun y _ ↦ y.div_one
  rw [resampleTo_of_one he (one_mul r.width) (one_mul r.height), hrun,
    hsame.unique (.refl r) hwidth' hheight']

end Rasters

namespace NamedFilter

variable {engine : Engine} {f : NamedFilter Method} {kernel : Kernel} {requested : Size}
  {p : Picture}

theorem applied_own (hengine : ∀ bands, (engine bands).KeepsAtOne) (hf : f.method = .kernel kernel)
    (hp : p.size.Positive) (hwidth : p.size.width < 2 ^ 49) (hheight : p.size.height < 2 ^ 49)
    (hrequested : resolveSize p.size requested = .ok p.size) (xMode yMode : EdgeMode) :
    f.applied engine requested xMode yMode p = .ok p := by
  have htarget : p.size = ⟨(1 * p.raster.width : ℕ), (1 * p.raster.height : ℕ)⟩ := by
    rw [one_mul, one_mul]
    rfl
  have haim : Aim.of p.size requested = .ok (.times 1 1 p.raster.width p.raster.height) :=
    Aim.of_eq_ok_iff.2 ⟨hrequested.trans (congrArg Except.ok htarget),
      between_times (Raster.width_pos hp) (by norm_num),
      between_times (Raster.height_pos hp) (by norm_num)⟩
  rw [applied_of_kernel hf haim, Raster.resampleTo_own (hengine _) hp (Int.ofNat_lt.1 hwidth)
    (Int.ofNat_lt.1 hheight)]
  rfl

end NamedFilter

namespace Session

variable {σ ι κ : Type} {s : Session σ ι κ} {f : NamedFilter κ} {requested : Size} {image : ι}
  {w : σ}

def sameRounds (f : NamedFilter κ) (requested : Size) (image : ι) (n : ℕ) : List (Event ι) :=
  (List.replicate n [.applyFilter image f.name requested resizeEdge resizeEdge, .timed durationKey,
    .counted appliedKey]).flatten

theorem run_applyTimes_same
    (h : (s.service.applyFilter image f requested resizeEdge resizeEdge).Yields w image w) (n : ℕ) :
    (s.applyTimes f requested n image).visible.run w =
      ⟨sameRounds f requested image n, .ok image, w⟩ := by
  obtain ⟨hresult, hstate⟩ := h
  induction n with
  | zero => rfl
  | succ n ih =>
    simp only [applyTimes, visible_bind]
    rw [run_bind, run_applyOnce, hresult, hstate]
    show ((s.applyTimes f requested n image).visible.run w).after _ = _
    rw [ih]
    rfl

theorem passes_resize_same
    (h : (s.service.applyFilter image f requested resizeEdge resizeEdge).Yields w image w)
    {st : Statement} {size filter : String} {dimensions : Dimensions} {spec : FilterSpec}
    (hst : st.request = some (.resize size filter))
    (hd : Dimensions.parse size = .ok (.ok dimensions)) (hf : FilterSpec.parse filter = .ok spec)
    (hr : s.registry.resolve spec.name = some f)
    (hrequested : requested = ⟨dimensions.width, dimensions.height⟩) :
    s.Passes (some image) w [st] (.output (resizeLine dimensions spec) ::
      sameRounds f requested image spec.repeats) (some image) w := by
  subst hrequested
  rw [Passes, run_executeAll_resize hd hf hr hst, run_bind, run_applyTimes_same h,
    Outcome.andThen_ok, Outcome.after_after, executeAll, visible_pure, run_pure, Outcome.after_mk,
    List.append_nil]
  rfl

end Session

namespace FileService

/-- A request that keeps the size keeps the pixels: a kernel filter gives back the picture itself,
and a resize leaves the buffer as it was, however often it applies its filter. -/
theorem own_size_keeps_pixels (engine : Engine) (hengine : ∀ bands, (engine bands).KeepsAtOne)
    (profile : EngineProfile) (program : String) {f : NamedFilter Method} {kernel : Kernel}
    (hf : f.method = .kernel kernel) {p : Picture} (hp : p.size.Positive)
    (hwidth : p.size.width ≤ maxEngineInteger) (hheight : p.size.height ≤ maxEngineInteger)
    (requested : Size) :
    let s := session engine profile program
    (resolveSize p.size requested = .ok p.size ↔ requested.Keeps p.size) ∧
    (requested.Keeps p.size →
      (∀ xMode yMode (w : Disk), (f.apply engine requested xMode yMode p).Yields w p w) ∧
      ∀ st size filter dimensions spec w, st.request = some (.resize size filter) →
        Dimensions.parse size = .ok (.ok dimensions) → FilterSpec.parse filter = .ok spec →
        s.registry.resolve spec.name = some f →
        requested = ⟨dimensions.width, dimensions.height⟩ →
        s.Passes (some p) w [st] (.output (resizeLine dimensions spec) ::
          sameRounds f requested p spec.repeats) (some p) w) := by
  intro s
  have hbound : maxEngineInteger < 2 ^ 49 := by decide
  have hresolve : resolveSize p.size requested = .ok p.size ↔ requested.Keeps p.size :=
    resolveSize_eq_self_iff hp (by omega) (by omega)
  refine ⟨hresolve, fun hkeeps ↦ ?_⟩
  have happly : ∀ xMode yMode (w : Disk),
      (f.apply engine requested xMode yMode p).Yields w p w := by
    intro xMode yMode w
    refine ⟨?_, NamedFilter.keepsState_apply engine f requested xMode yMode p w⟩
    rw [NamedFilter.result_apply]
    exact NamedFilter.applied_own hengine hf hp (hwidth.trans_lt hbound) (hheight.trans_lt hbound)
      (hresolve.2 hkeeps) xMode yMode
  refine ⟨happly, ?_⟩
  intro st size filter dimensions spec w hst hd hspec hr hrequested
  exact passes_resize_same (happly resizeEdge resizeEdge w) hst hd hspec hr hrequested

/-- The picture is smaller than the margin, and its height is left to the aspect ratio. -/
theorem own_size_keeps_pixels_threefold :
    let s := session nearestEngine {} "scaler"
    let p := Picture.ofSamples 2 1 3 UInt8.ofNat
    let f : NamedFilter Method := ⟨"Bicubic", .kernel .cubic⟩
    resolveSize p.size ⟨2, 0⟩ = .ok p.size ∧
      (f.apply nearestEngine ⟨2, 0⟩ .mirror .wrap p).Yields ({} : Disk) p {} ∧
      s.Passes (some p) {} [⟨"/RESIZE", 2, some (.resize "2x0" "bicubic(3)"), 0⟩]
        (.output (resizeLine ⟨2, 0⟩ ⟨"bicubic", 3⟩) :: sameRounds f ⟨2, 0⟩ p 3) (some p) {} := by
  intro s p f
  obtain ⟨hresolve, hkeeps⟩ := own_size_keeps_pixels nearestEngine
    (fun _ ↦ Interpolator.nearestPixel_lawful.identity) {} "scaler" (f := f) rfl (p := p)
    ⟨by decide, by decide⟩ (by decide) (by decide) ⟨2, 0⟩
  have hrequested : Size.Keeps ⟨2, 0⟩ p.size := ⟨.inr rfl, .inl le_rfl⟩
  obtain ⟨happly, hpasses⟩ := hkeeps hrequested
  have hsize : Dimensions.parse "2x0" = .ok (.ok ⟨2, 0⟩) := by decide +kernel
  have hfilter : FilterSpec.parse "bicubic(3)" = .ok ⟨"bicubic", 3⟩ := by decide +kernel
  have hname : s.registry.resolve "bicubic" = some f := by decide +kernel
  exact ⟨hresolve.2 hrequested, happly _ _ _, hpasses _ _ _ _ _ _ rfl hsize hfilter hname rfl⟩

end FileService

end BatchScaler

import BatchScaler.Program.Run
import BatchScaler.Proofs.Filter.Resampling
import BatchScaler.Proofs.Picture.Applied

namespace BatchScaler

/-- A factor to the resolved size, in double precision, is greater than the engine takes. -/
def Size.TooFar (natural requested : Size) : Prop :=
  ∃ target, resolveSize natural requested = .ok target ∧
    (maxFactor < binary64.nearest (target.width / natural.width) ∨
      maxFactor < binary64.nearest (target.height / natural.height))

theorem Aim.tooFar_iff {natural requested : Size} {aim : Aim}
    (haim : Aim.of natural requested = .ok aim) : aim.TooFar ↔ natural.TooFar requested := by
  obtain ⟨htarget, hh, hv⟩ := Aim.of_eq_ok_iff.1 haim
  unfold Aim.TooFar Size.TooFar
  rw [Scale.between_eq_ok hh, Scale.between_eq_ok hv]
  constructor
  · intro hfar
    exact ⟨aim.target, htarget, hfar⟩
  · rintro ⟨target, hresolve, hfar⟩
    rw [htarget] at hresolve
    cases hresolve
    exact hfar

namespace NamedFilter

variable {engine : Engine} {f : NamedFilter Method} {requested : Size} {p : Picture}

theorem naturalSize_positive (hp : p.size.Positive) (f : NamedFilter Method) :
    (f.naturalSize p).Positive := by
  have hscale : (0 : ℤ) < f.method.scale := by
    cases f.method with
    | kernel kernel => exact one_pos
    | pixelArt scaler => exact Int.natCast_pos.2 scaler.factor_pos
  exact ⟨mul_pos hp.width_pos hscale, mul_pos hp.height_pos hscale⟩

theorem applied_of_overflows (hp : p.size.Positive)
    (h : (f.naturalSize p).Overflows requested) (xMode yMode : EdgeMode) :
    f.applied engine requested xMode yMode p = .error .overflow := by
  have haim := aim_of_overflows (naturalSize_positive hp f) h
  unfold applied
  cases hmethod : f.method with
  | kernel kernel =>
    rw [naturalSize_of_kernel hmethod] at haim
    dsimp only
    rw [haim]
    rfl
  | pixelArt scaler =>
    rw [naturalSize_of_pixelArt hmethod] at haim
    have henlarge := Raster.enlargeTo_of_overflow (e := engine p.bands) hp haim xMode yMode
    dsimp only
    refine Except.bind_eq_error_iff.2 ?_
    rcases Except.bind_eq_error_iff.1 henlarge with h | ⟨target, htarget, h⟩
    · exact .inl h
    · exact .inr ⟨target, htarget, Except.bind_eq_error_iff.2 (.inl h)⟩

theorem applied_of_tooFar (hp : p.size.Positive) {aim : Aim}
    (haim : Aim.of (f.naturalSize p) requested = .ok aim) (hfar : aim.TooFar)
    (xMode yMode : EdgeMode) : f.applied engine requested xMode yMode p = .error .engine := by
  unfold applied
  cases hmethod : f.method with
  | kernel kernel =>
    rw [naturalSize_of_kernel hmethod] at haim
    dsimp only
    rw [haim]
    show (p.raster.resampleTo _ _ aim xMode yMode >>= _) = _
    rw [Raster.resampleTo_of_tooFar hfar]
    rfl
  | pixelArt scaler =>
    rw [naturalSize_of_pixelArt hmethod] at haim
    obtain ⟨htarget, -, -⟩ := Aim.of_eq_ok_iff.1 haim
    dsimp only
    rw [htarget]
    show (p.raster.enlargeTo _ _ aim.target xMode yMode >>= _) = _
    rw [Raster.enlargeTo_of_tooFar haim hp hfar]
    rfl

theorem exists_applied (engine : Engine) (hp : p.size.Positive) (hwidth : p.size.width < 2 ^ 50)
    (hheight : p.size.height < 2 ^ 50) {aim : Aim}
    (haim : Aim.of (f.naturalSize p) requested = .ok aim) (hnear : ¬aim.TooFar)
    (xMode yMode : EdgeMode) : ∃ p', f.applied engine requested xMode yMode p = .ok p' := by
  have hwidth' : p.raster.width < 2 ^ 50 := Int.ofNat_lt.1 hwidth
  have hheight' : p.raster.height < 2 ^ 50 := Int.ofNat_lt.1 hheight
  unfold applied
  cases hmethod : f.method with
  | kernel kernel =>
    rw [naturalSize_of_kernel hmethod] at haim
    obtain ⟨r', hr'⟩ := Raster.exists_resampleTo (e := engine p.bands) haim hp hnear (by omega)
      (by omega) kernel xMode yMode
    exact ⟨⟨p.bands, r', p.origin⟩, Except.bind_eq_ok_iff.2 ⟨aim, haim,
      Except.bind_eq_ok_iff.2 ⟨r', hr', rfl⟩⟩⟩
  | pixelArt scaler =>
    rw [naturalSize_of_pixelArt hmethod] at haim
    obtain ⟨htarget, -, -⟩ := Aim.of_eq_ok_iff.1 haim
    obtain ⟨r', hr'⟩ := Raster.exists_enlargeTo (e := engine p.bands) haim hp hnear hwidth' hheight'
      xMode yMode
    exact ⟨⟨p.bands, r', none⟩, Except.bind_eq_ok_iff.2 ⟨aim.target, htarget,
      Except.bind_eq_ok_iff.2 ⟨r', hr', rfl⟩⟩⟩

end NamedFilter

namespace FileService

/-- The service converts no fault of a filter: a request that double precision cannot hold ends in
an overflow, a factor that is too great in a fault of the engine, and nothing else goes wrong in an
engine without a limit on the sides of an image. -/
theorem applyFilter_ends (engine : Engine) (profile : EngineProfile) (f : NamedFilter Method)
    (requested : Size) (xMode yMode : EdgeMode) {p : Picture} (hp : p.size.Positive)
    (hwidth : p.size.width ≤ maxEngineInteger) (hheight : p.size.height ≤ maxEngineInteger)
    (w : Disk) :
    let result := (((service engine profile).applyFilter p f requested xMode yMode).run w).result
    let natural := f.naturalSize p
    (result = .error .overflow ↔ natural.Overflows requested) ∧
      (result = .error .engine ↔ ¬natural.Overflows requested ∧ natural.TooFar requested) ∧
      ((∃ p', result = .ok p') ↔ ¬natural.Overflows requested ∧ ¬natural.TooFar requested) ∧
      ∀ path reason, result ≠ .error (.io path reason) := by
  intro result natural
  have hresult : result = f.applied engine requested xMode yMode p :=
    f.result_apply engine requested xMode yMode p w
  rw [hresult]
  by_cases hoverflow : natural.Overflows requested
  · rw [f.applied_of_overflows hp hoverflow]
    simp [hoverflow]
  · obtain ⟨aim, haim⟩ := aim_of_not_overflows (f.naturalSize_positive hp) hoverflow
    have hiff := aim.tooFar_iff haim
    by_cases hfar : aim.TooFar
    · rw [f.applied_of_tooFar hp haim hfar]
      simp [hoverflow, natural, hiff.1 hfar]
    · have hbound : maxEngineInteger < 2 ^ 50 := by decide
      obtain ⟨p', hp'⟩ := f.exists_applied engine hp (hwidth.trans_lt hbound)
        (hheight.trans_lt hbound) haim hfar xMode yMode
      rw [hp']
      have hnear := mt hiff.2 hfar
      simp [hoverflow, natural, hnear]

theorem applyFilter_ends_too_far :
    (((service nearestEngine {}).applyFilter (.ofSamples 1 1 3 fun _ ↦ 0)
      ⟨"Pixel", .kernel .nearest⟩ ⟨20000000, 1⟩ Session.resizeEdge
      Session.resizeEdge).run {}).result = .error .engine := by
  have hends := applyFilter_ends nearestEngine {} ⟨"Pixel", .kernel .nearest⟩ ⟨20000000, 1⟩
    Session.resizeEdge Session.resizeEdge (p := .ofSamples 1 1 3 fun _ ↦ 0)
    ⟨by decide, by decide⟩ (by decide) (by decide) {}
  refine hends.2.1.2 ⟨?_, ⟨20000000, 1⟩, rfl, .inl ?_⟩
  · unfold Size.Overflows
    decide +kernel
  · decide +kernel

/-- No double is great enough for the width that goes with such a height, and no handler takes care
of a factor that the engine refuses. -/
theorem great_requests_escape :
    (((service nearestEngine {}).applyFilter (.ofSamples 1 1 3 fun _ ↦ 0)
      ⟨"Pixel", .kernel .nearest⟩ ⟨0, 10 ^ 400⟩ Session.resizeEdge
      Session.resizeEdge).run {}).result = .error .overflow ∧
    ((Session.runGuarded ⟨service nearestEngine {}, defaultRegistry, "scaler"⟩
      (["/LOAD", "a.png", "/RESIZE", "20000000x1", "Pixel"].map some)).run
        ⟨[(["a.png"], .picture .png (.bytes (.ofSamples 1 1 3 fun _ ↦ 0)))]⟩).result =
      .error .engine := by
  constructor
  · refine (NamedFilter.result_apply _ _ _ _ _ _ _).trans ?_
    refine NamedFilter.applied_of_overflows ⟨by decide, by decide⟩ ?_ _ _
    unfold Size.Overflows
    decide +kernel
  · decide +kernel

end FileService

end BatchScaler

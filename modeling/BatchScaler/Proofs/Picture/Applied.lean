import BatchScaler.Picture.Filtering
import BatchScaler.Proofs.Filter.TargetSize
import BatchScaler.Proofs.Report.Outcome

namespace BatchScaler.NamedFilter

variable {σ : Type} {engine : Engine} {f : NamedFilter Method} {requested : Size}
  {xMode yMode : EdgeMode} {p p' : Picture}

def applied (engine : Engine) (f : NamedFilter Method) (requested : Size) (xMode yMode : EdgeMode)
    (p : Picture) : Except Fault Picture :=
  match f.method with
  | .kernel kernel => do
    let aim ← Aim.of p.size requested
    let raster ← p.raster.resampleTo (engine p.bands) kernel aim xMode yMode
    return ⟨p.bands, raster, p.origin⟩
  | .pixelArt scaler => do
    let target ← resolveSize (p.raster.naturalSize scaler) requested
    let raster ← p.raster.enlargeTo (engine p.bands) scaler target xMode yMode
    return ⟨p.bands, raster, none⟩

def naturalSize (f : NamedFilter Method) (p : Picture) : Size :=
  ⟨p.size.width * f.method.scale, p.size.height * f.method.scale⟩

theorem naturalSize_of_kernel {kernel : Kernel} (h : f.method = .kernel kernel) (p : Picture) :
    f.naturalSize p = p.size := by
  unfold naturalSize
  rw [h, Method.scale, Nat.cast_one, mul_one, mul_one]

theorem naturalSize_of_pixelArt {scaler : Scaler} (h : f.method = .pixelArt scaler) (p : Picture) :
    f.naturalSize p = p.raster.naturalSize scaler := by
  unfold naturalSize
  rw [h]
  rfl

theorem result_apply (engine : Engine) (f : NamedFilter Method) (requested : Size)
    (xMode yMode : EdgeMode) (p : Picture) (w : σ) :
    ((f.apply engine requested xMode yMode p).run w).result =
      f.applied engine requested xMode yMode p := by
  unfold apply applied
  cases f.method with
  | kernel kernel =>
    dsimp only [Picture.resample]
    rw [Action.result_ofExcept_bind]
    refine bind_congr fun aim ↦ ?_
    rw [Action.result_report_bind, Action.result_ofExcept_bind]
    rfl
  | pixelArt scaler =>
    dsimp only [Picture.enlarge]
    rw [Action.result_ofExcept_bind]
    refine bind_congr fun target ↦ ?_
    rw [Action.result_report_bind, Action.result_ofExcept_bind]
    rfl

theorem keepsState_apply (engine : Engine) (f : NamedFilter Method) (requested : Size)
    (xMode yMode : EdgeMode) (p : Picture) :
    (f.apply engine requested xMode yMode p : Action LogRecord σ Picture).KeepsState := by
  unfold apply
  cases f.method with
  | kernel kernel =>
    exact .bind (.ofExcept _) fun aim ↦ .bind (.report _) fun _ ↦ .bind (.ofExcept _) fun raster ↦
      .pure _
  | pixelArt scaler =>
    exact .bind (.ofExcept _) fun target ↦ .bind (.report _) fun _ ↦ .bind (.ofExcept _) fun raster ↦
      .pure _

/-- Every filter comes to the size that is resolved for it, and keeps the number of bands. -/
theorem size_of_apply (hp : p.size.Positive) {w : σ}
    (h : ((f.apply engine requested xMode yMode p).run w).result = .ok p') :
    resolveSize (f.naturalSize p) requested = .ok p'.size ∧ p'.bands = p.bands := by
  rw [result_apply] at h
  unfold applied at h
  cases hmethod : f.method with
  | kernel kernel =>
    rw [hmethod] at h
    obtain ⟨aim, haim, h⟩ := Except.bind_eq_ok_iff.1 h
    obtain ⟨raster, hraster, h⟩ := Except.bind_eq_ok_iff.1 h
    cases h
    obtain ⟨target, htarget, haim⟩ := Except.bind_eq_ok_iff.1 haim
    obtain ⟨horizontal, hh, haim⟩ := Except.bind_eq_ok_iff.1 haim
    obtain ⟨vertical, hv, haim⟩ := Except.bind_eq_ok_iff.1 haim
    cases haim
    have hpositive := positive_of_resolveSize hp htarget
    have hsize := Raster.size_resampleTo
      (Scale.factor_nonneg_of_between hpositive.width_pos.le hp.width_pos.le hh)
      (Scale.factor_nonneg_of_between hpositive.height_pos.le hp.height_pos.le hv) hraster
    rw [naturalSize_of_kernel hmethod]
    exact ⟨htarget.trans (congrArg Except.ok hsize.symm), rfl⟩
  | pixelArt scaler =>
    rw [hmethod] at h
    obtain ⟨target, htarget, h⟩ := Except.bind_eq_ok_iff.1 h
    obtain ⟨raster, hraster, h⟩ := Except.bind_eq_ok_iff.1 h
    cases h
    have hsize := Raster.size_enlargeTo hraster
    rw [naturalSize_of_pixelArt hmethod]
    exact ⟨htarget.trans (congrArg Except.ok hsize.symm), rfl⟩

theorem size_of_apply_scale3x :
    ∃ p', ((apply nearestEngine ⟨"Scale3x", .pixelArt .scale3x⟩ ⟨5, 0⟩ .mirror .wrap
        (.ofSamples 2 1 3 UInt8.ofNat)).run ()).result = .ok p' ∧
      resolveSize ⟨6, 3⟩ ⟨5, 0⟩ = .ok p'.size ∧ p'.bands = 3 := by
  have hok : ((apply nearestEngine ⟨"Scale3x", .pixelArt .scale3x⟩ ⟨5, 0⟩ .mirror .wrap
      (.ofSamples 2 1 3 UInt8.ofNat)).run ()).result.toBool = true := by
    decide +kernel
  obtain ⟨p', h⟩ := Except.eq_ok_of_toBool hok
  exact ⟨p', h, size_of_apply ⟨by decide, by decide⟩ h⟩

end BatchScaler.NamedFilter

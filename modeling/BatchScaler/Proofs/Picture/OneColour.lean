import BatchScaler.Proofs.Picture.Recolouring
import BatchScaler.Proofs.Picture.Refusals

namespace BatchScaler

variable {α : Type}

def Interpolator.KeepsColour (e : Interpolator α) : Prop :=
  ∀ (kernel : Kernel) (horizontal vertical : Scale) (r : Raster α) (c : α) (x y : ℕ),
    r.IsUniform c → e.colour kernel horizontal vertical r x y c = c

namespace Raster.IsUniform

variable {e : Interpolator α} {r : Raster α} {c : α}

theorem remap (hr : r.IsUniform c) {width height : ℕ} (column : Fin width → Fin r.width)
    (row : Fin height → Fin r.height) : (r.remap width height column row).IsUniform c := by
  intro (x : Fin width) (y : Fin height)
  exact (get_ofFn width height (fun x y ↦ r.get (column x) (row y)) x y).trans (hr _ _)

theorem resample (he : e.KeepsColour) (hr : r.IsUniform c) (kernel : Kernel)
    (horizontal vertical : Scale) (width height : ℕ) (hw : 0 < r.width) (hh : 0 < r.height) :
    (r.resample e kernel horizontal vertical width height hw hh).IsUniform c := by
  intro (x : Fin width) (y : Fin height)
  refine (get_ofFn width height _ x y).trans ?_
  dsimp only
  rw [hr]
  cases kernel with
  | nearest => rfl
  | _ => exact he _ horizontal vertical r c x y hr

end Raster.IsUniform

namespace Step

variable {e : Interpolator α} {r r' : Raster α} {c : α}

theorem isUniform_of_run (he : e.KeepsColour) (hr : r.IsUniform c) {step : Step}
    (h : run e r step = .ok r') : r'.IsUniform c := by
  cases step with
  | embed x y width height mode =>
    simp only [run] at h
    split at h
    · cases h
      exact hr.remap _ _
    · cases h
  | crop x y width height =>
    simp only [run] at h
    split at h
    · cases h
      exact hr.remap _ _
    · cases h
  | resize horizontal vertical kernel =>
    simp only [run] at h
    split at h
    · obtain ⟨size, -, h⟩ := Except.bind_eq_ok_iff.1 h
      cases h
      exact hr.resample he kernel horizontal vertical _ _ _ _
    · cases h

theorem isUniform_of_runAll (he : e.KeepsColour) (hr : r.IsUniform c) {steps : List Step}
    (h : runAll e r steps = .ok r') : r'.IsUniform c := by
  induction steps generalizing r with
  | nil =>
    cases h
    exact hr
  | cons step steps ih =>
    obtain ⟨r₁, hstep, hrest⟩ := Except.bind_eq_ok_iff.1 h
    exact ih (isUniform_of_run he hr hstep) hrest

end Step

inductive Picture.OneColour {bands : ℕ} (c : Pixel bands) : Picture → Prop
  | intro {raster : Raster (Pixel bands)} {origin : Option FileFormat} :
      raster.size.Positive → raster.IsUniform c → OneColour c ⟨bands, raster, origin⟩

namespace Picture.OneColour

variable {bands : ℕ} {c : Pixel bands} {p p' : Picture}

theorem size_positive (hp : p.OneColour c) : p.size.Positive := by
  cases hp with
  | intro hsize => exact hsize

theorem of_drawnFrom (hp : p.OneColour c) (h : p'.DrawnFrom p) (hsize : p'.size.Positive) :
    p'.OneColour c := by
  cases h with
  | intro hcolours =>
    cases hp with
    | intro _ hc =>
      refine .intro hsize fun x y ↦ ?_
      obtain ⟨x₀, y₀, hget⟩ := hcolours _ ⟨x, y, rfl⟩
      exact hget.symm.trans (hc x₀ y₀)

end Picture.OneColour

namespace NamedFilter

variable {σ : Type} {engine : Engine} {requested : Size} {xMode yMode : EdgeMode}
  {p p' : Picture} {bands : ℕ} {c : Pixel bands}

theorem oneColour_of_applied (hengine : ∀ bands, (engine bands).KeepsColour)
    (hp : p.OneColour c) (f : NamedFilter Method) (hsize : p'.size.Positive)
    (h : f.applied engine requested xMode yMode p = .ok p') : p'.OneColour c := by
  cases hmethod : f.method with
  | pixelArt scaler =>
    have hcopies : f.method.Copies := by
      rw [hmethod]
      trivial
    exact hp.of_drawnFrom (drawnFrom_of_applied hcopies h) hsize
  | kernel kernel =>
    unfold applied at h
    rw [hmethod] at h
    obtain ⟨aim, -, h⟩ := Except.bind_eq_ok_iff.1 h
    obtain ⟨raster, hraster, h⟩ := Except.bind_eq_ok_iff.1 h
    cases h
    cases hp with
    | intro _ hc =>
      obtain ⟨steps, -, hrun⟩ := Except.bind_eq_ok_iff.1 hraster
      exact .intro hsize (Step.isUniform_of_runAll (hengine _) hc hrun)

/-- A picture of one colour stays one, whatever filter, size and modes it is resized with. -/
theorem apply_one_colour (hengine : ∀ bands, (engine bands).KeepsColour) (hp : p.OneColour c)
    (f : NamedFilter Method) {w : σ}
    (h : ((f.apply engine requested xMode yMode p).run w).result = .ok p') : p'.OneColour c := by
  obtain ⟨hsize, -⟩ := size_of_apply hp.size_positive h
  have hpositive := positive_of_resolveSize (naturalSize_positive hp.size_positive f) hsize
  rw [result_apply] at h
  exact oneColour_of_applied hengine hp f hpositive h

theorem apply_one_colour_lanczos3 :
    let p : Picture := ⟨3, .ofFn 2 1 fun _ _ ↦ #v[9, 8, 7], none⟩
    ∃ p', ((apply nearestEngine ⟨"Lanczos3", .kernel .lanczos3⟩ ⟨5, 0⟩ .mirror .wrap p).run
      ()).result = .ok p' ∧ p'.OneColour #v[9, 8, 7] := by
  intro p
  have hok : ((apply nearestEngine ⟨"Lanczos3", .kernel .lanczos3⟩ ⟨5, 0⟩ .mirror .wrap p).run
      ()).result.toBool = true := by
    decide +kernel
  obtain ⟨p', h⟩ := Except.eq_ok_of_toBool hok
  have hp : p.OneColour #v[9, 8, 7] := .intro ⟨by decide, by decide⟩ fun x y ↦
    Raster.get_ofFn 2 1 (fun _ _ ↦ (#v[9, 8, 7] : Pixel 3)) x y
  exact ⟨p', h, apply_one_colour (fun _ ↦ Interpolator.nearestPixel_lawful.uniform) hp _ h⟩

end NamedFilter

end BatchScaler

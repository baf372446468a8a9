import BatchScaler.Proofs.Filter.Recolouring
import BatchScaler.Proofs.Picture.Applied

namespace BatchScaler

/-- Every colour of the first picture occurs in the second one, which has as many bands. -/
inductive Picture.DrawnFrom : Picture → Picture → Prop
  | intro {bands : ℕ} {raster raster' : Raster (Pixel bands)} {origin origin' : Option FileFormat} :
      (∀ c, raster'.Has c → raster.Has c) →
      DrawnFrom ⟨bands, raster', origin'⟩ ⟨bands, raster, origin⟩

namespace Picture.DrawnFrom

theorem refl (p : Picture) : p.DrawnFrom p :=
  .intro fun _ h ↦ h

theorem trans {p p' p'' : Picture} (h : p.DrawnFrom p') (h' : p'.DrawnFrom p'') :
    p.DrawnFrom p'' := by
  cases h with
  | intro h =>
    cases h' with
    | intro h' => exact .intro fun c hc ↦ h' c (h c hc)

end Picture.DrawnFrom

theorem Picture.colourOfGrey_injective : Function.Injective colourOfGrey := by
  intro a b h
  ext i hi
  obtain rfl : i = 0 := by omega
  have hfirst := congrArg (fun v : Pixel 3 ↦ v[0]) h
  exact congrArg UInt8.toNat hfirst

def Method.Copies : Method → Prop
  | kernel k => k = .nearest
  | pixelArt _ => True

instance : DecidablePred Method.Copies
  | .kernel k => inferInstanceAs (Decidable (k = .nearest))
  | .pixelArt _ => inferInstanceAs (Decidable True)

namespace NamedFilter

variable {σ : Type} {engine : Engine} {f : NamedFilter Method} {s : Scaler} {requested : Size}
  {xMode yMode : EdgeMode} {p p' : Picture}

def enlarged (engine : Engine) (s : Scaler) (requested : Size) (xMode yMode : EdgeMode) {bands : ℕ}
    (raster : Raster (Pixel bands)) : Except Fault (Raster (Pixel bands)) := do
  let target ← resolveSize (raster.naturalSize s) requested
  raster.enlargeTo (engine bands) s target xMode yMode

theorem applied_of_pixelArt (hf : f.method = .pixelArt s) :
    f.applied engine requested xMode yMode p =
      (enlarged engine s requested xMode yMode p.raster).map (⟨p.bands, ·, none⟩) := by
  unfold applied enlarged
  rw [hf]
  dsimp only
  cases resolveSize (p.raster.naturalSize s) requested with
  | error fault => rfl
  | ok target =>
    show (p.raster.enlargeTo (engine p.bands) s target xMode yMode >>= _) =
      (p.raster.enlargeTo (engine p.bands) s target xMode yMode).map _
    cases p.raster.enlargeTo (engine p.bands) s target xMode yMode with
    | error fault => rfl
    | ok raster => rfl

theorem enlarged_map {bands bands' : ℕ} {g : Pixel bands → Pixel bands'} (hg : g.Injective)
    (raster : Raster (Pixel bands)) :
    enlarged engine s requested xMode yMode (raster.map g) =
      (enlarged engine s requested xMode yMode raster).map (Raster.map g) :=
  Except.bind_eq_map fun target ↦ raster.enlargeTo_map _ _ hg s target xMode yMode

/-- Pixel art depends on which pixels are equal, and on nothing else: recolouring a picture
recolours what comes of it. -/
theorem apply_recoloured (hf : f.method = .pixelArt s) {bands bands' : ℕ}
    {g : Pixel bands → Pixel bands'} (hg : g.Injective) (raster : Raster (Pixel bands))
    (origin origin' : Option FileFormat) (requested : Size) (xMode yMode : EdgeMode) (v w : σ) :
    ∃ outcome : Except Fault (Raster (Pixel bands)),
      ((f.apply engine requested xMode yMode ⟨bands, raster, origin⟩).run v).result =
        outcome.map (⟨bands, ·, none⟩) ∧
      ((f.apply engine requested xMode yMode ⟨bands', raster.map g, origin'⟩).run w).result =
        outcome.map fun enlarged ↦ ⟨bands', enlarged.map g, none⟩ := by
  refine ⟨enlarged engine s requested xMode yMode raster, ?_, ?_⟩
  · rw [result_apply]
    exact applied_of_pixelArt (p := ⟨bands, raster, origin⟩) hf
  · rw [result_apply, applied_of_pixelArt hf]
    dsimp only
    rw [enlarged_map hg]
    cases enlarged engine s requested xMode yMode raster with
    | error fault => rfl
    | ok enlarged => rfl

theorem apply_recoloured_grey :
    ∃ outcome : Except Fault (Raster (Pixel 1)),
      ((apply nearestEngine ⟨"Scale2x", .pixelArt .scale2x⟩ ⟨5, 0⟩ .mirror .wrap
          (.ofSamples 2 1 1 UInt8.ofNat)).run ()).result = outcome.map (⟨1, ·, none⟩) ∧
      ((apply nearestEngine ⟨"Scale2x", .pixelArt .scale2x⟩ ⟨5, 0⟩ .mirror .wrap
          (Picture.ofSamples 2 1 1 UInt8.ofNat).inColour).run ()).result =
        outcome.map fun enlarged ↦ ⟨3, enlarged.map Picture.colourOfGrey, none⟩ :=
  apply_recoloured rfl Picture.colourOfGrey_injective _ _ _ ⟨5, 0⟩ .mirror .wrap () ()

theorem drawnFrom_of_applied (hf : f.method.Copies)
    (h : f.applied engine requested xMode yMode p = .ok p') : p'.DrawnFrom p := by
  unfold applied at h
  cases hmethod : f.method with
  | kernel kernel =>
    rw [hmethod] at hf h
    obtain rfl : kernel = .nearest := hf
    obtain ⟨aim, -, h⟩ := Except.bind_eq_ok_iff.1 h
    obtain ⟨raster, hraster, h⟩ := Except.bind_eq_ok_iff.1 h
    cases h
    exact .intro fun c hc ↦ Raster.has_of_resampleTo hraster hc
  | pixelArt scaler =>
    rw [hmethod] at h
    obtain ⟨target, -, h⟩ := Except.bind_eq_ok_iff.1 h
    obtain ⟨raster, hraster, h⟩ := Except.bind_eq_ok_iff.1 h
    cases h
    exact .intro fun c hc ↦ Raster.has_of_enlargeTo hraster hc

end NamedFilter

end BatchScaler

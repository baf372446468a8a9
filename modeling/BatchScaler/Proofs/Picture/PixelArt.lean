import BatchScaler.Proofs.Filter.Symmetry
import BatchScaler.Proofs.Picture.Applied

namespace BatchScaler.NamedFilter

variable {σ : Type} {engine : Engine} {f : NamedFilter Method} {s : Scaler}
  {requested requested' : Size} {p : Picture}

def AsksNatural (f : NamedFilter Method) (p : Picture) (requested : Size) : Prop :=
  resolveSize (f.naturalSize p) requested = .ok (f.naturalSize p)

instance (f : NamedFilter Method) (p : Picture) (requested : Size) :
    Decidable (f.AsksNatural p requested) :=
  inferInstanceAs (Decidable (_ = _))

theorem applied_of_natural (hf : f.method = .pixelArt s) (hp : p.size.Positive)
    (h : f.AsksNatural p requested) (xMode yMode : EdgeMode) :
    f.applied engine requested xMode yMode p =
      .ok ⟨p.bands, p.raster.published s xMode yMode, none⟩ := by
  have henlarge : p.raster.enlargeTo (engine p.bands) s (p.raster.naturalSize s) xMode yMode =
      .ok (p.raster.enlargement s xMode yMode) := by
    unfold Raster.enlargeTo
    rw [Raster.enlargePadded_eq hp]
    exact if_pos rfl
  rw [Raster.enlargement_eq_published] at henlarge
  unfold AsksNatural at h
  rw [naturalSize_of_pixelArt hf] at h
  unfold applied
  rw [hf]
  exact Except.bind_eq_ok_iff.2 ⟨_, h, Except.bind_eq_ok_iff.2 ⟨_, henlarge, rfl⟩⟩

/-- Pixel art of which no other size is asked follows the published rules. -/
theorem apply_as_published (hf : f.method = .pixelArt s) (hp : p.size.Positive)
    (h : f.AsksNatural p requested) (xMode yMode : EdgeMode) (w : σ) :
    ((f.apply engine requested xMode yMode p).run w).result =
      .ok ⟨p.bands, p.raster.published s xMode yMode, none⟩ := by
  rw [result_apply]
  exact applied_of_natural hf hp h xMode yMode

theorem apply_as_published_eagle2x :
    ((apply nearestEngine ⟨"Eagle2x", .pixelArt .eagle2x⟩ ⟨0, 0⟩ .wrap .mirror
        (.ofSamples 2 1 3 UInt8.ofNat)).run ()).result =
      .ok ⟨3, (Picture.ofSamples 2 1 3 UInt8.ofNat).raster.published .eagle2x .wrap .mirror,
        none⟩ :=
  apply_as_published rfl ⟨by decide, by decide⟩ (by decide) .wrap .mirror ()

/-- Pixel art prefers no direction: what comes of a picture that is reflected, any number of times,
is what comes of the picture, reflected in the same way. -/
theorem apply_reflected {bands : ℕ} {raster : Raster (Pixel bands)}
    {origin origin' : Option FileFormat} (reflections : List Reflection)
    (modes : EdgeMode × EdgeMode) (hf : f.method = .pixelArt s) (hraster : raster.size.Positive)
    (h : f.AsksNatural ⟨bands, raster, origin⟩ requested)
    (h' : f.AsksNatural ⟨bands, reflections.foldl Raster.reflected raster, origin'⟩ requested')
    (v w : σ) :
    let modes' := reflections.foldl Reflection.onAxes modes
    ∃ enlarged : Raster (Pixel bands),
      ((f.apply engine requested modes.1 modes.2 ⟨bands, raster, origin⟩).run v).result =
        .ok ⟨bands, enlarged, none⟩ ∧
      ((f.apply engine requested' modes'.1 modes'.2
          ⟨bands, reflections.foldl Raster.reflected raster, origin'⟩).run w).result =
        .ok ⟨bands, reflections.foldl Raster.reflected enlarged, none⟩ := by
  intro modes'
  refine ⟨raster.published s modes.1 modes.2, ?_, ?_⟩
  · rw [result_apply]
    exact applied_of_natural (p := ⟨bands, raster, origin⟩) hf hraster h modes.1 modes.2
  · have hpositive := Raster.positive_foldl_reflected hraster reflections
    rw [result_apply, ← raster.published_foldl_reflected s modes reflections]
    exact applied_of_natural (p := ⟨bands, reflections.foldl Raster.reflected raster, origin'⟩) hf
      hpositive h' modes'.1 modes'.2

/-- A quarter turn, under modes that differ. -/
theorem apply_reflected_turn :
    let raster := (Picture.ofSamples 2 1 3 UInt8.ofNat).raster
    ∃ enlarged : Raster (Pixel 3),
      ((apply nearestEngine ⟨"Scale3x", .pixelArt .scale3x⟩ ⟨0, 0⟩ .wrap .mirror
          ⟨3, raster, none⟩).run ()).result = .ok ⟨3, enlarged, none⟩ ∧
      ((apply nearestEngine ⟨"Scale3x", .pixelArt .scale3x⟩ ⟨0, 0⟩ .mirror .wrap
          ⟨3, (raster.reflected .horizontal).reflected .diagonal, none⟩).run ()).result =
        .ok ⟨3, (enlarged.reflected .horizontal).reflected .diagonal, none⟩ :=
  apply_reflected [.horizontal, .diagonal] (.wrap, .mirror) rfl ⟨by decide, by decide⟩ (by decide)
    (by decide) () ()

end BatchScaler.NamedFilter

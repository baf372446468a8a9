import BatchScaler.Proofs.Filter.IntegerScaling
import BatchScaler.Proofs.Picture.Applied
import BatchScaler.Script.Run
import BatchScaler.Service.Files

namespace BatchScaler.NamedFilter

variable {σ : Type} {engine : Engine} {f : NamedFilter Method} {p large : Picture}

theorem applied_of_kernel {kernel : Kernel} (hf : f.method = .kernel kernel) {requested : Size}
    {aim : Aim} (haim : Aim.of p.size requested = .ok aim) (xMode yMode : EdgeMode) :
    f.applied engine requested xMode yMode p =
      p.raster.resampleTo (engine p.bands) kernel aim xMode yMode >>= fun raster ↦
        .ok ⟨p.bands, raster, p.origin⟩ := by
  unfold applied
  rw [hf]
  dsimp only
  rw [haim]
  rfl

/-- Undoing an enlargement by integer factors shows what was there before, except that the axes
that are reduced to a half are shifted by a pixel and repeat their last one. -/
theorem undo_enlargement (hf : f.method = .kernel .nearest) (hp : p.size.Positive) (kx ky : ℕ)
    (hkx : 0 < kx) (hky : 0 < ky) (hwidth : kx * p.size.width ≤ FileService.maxEngineInteger)
    (hheight : ky * p.size.height ≤ FileService.maxEngineInteger) {v w : σ}
    (h : ((f.apply engine ⟨kx * p.size.width, ky * p.size.height⟩ Session.resizeEdge
      Session.resizeEdge p).run v).result = .ok large) :
    let restored :=
      ((f.apply engine p.size Session.resizeEdge Session.resizeEdge large).run w).result
    (∃ r, restored = .ok ⟨p.bands, r, p.origin⟩ ∧ r.size = p.size ∧
      p.raster.Shows r (restoredIndex kx p.raster.width) (restoredIndex ky p.raster.height)) ∧
    (kx ≠ 2 → ky ≠ 2 → restored = .ok p) := by
  intro restored
  have hw : 0 < p.raster.width := Raster.width_pos hp
  have hh : 0 < p.raster.height := Raster.height_pos hp
  have hkxw : (kx * p.size.width : ℤ) = (kx * p.raster.width : ℕ) := (Nat.cast_mul _ _).symm
  have hkyh : (ky * p.size.height : ℤ) = (ky * p.raster.height : ℕ) := (Nat.cast_mul _ _).symm
  rw [hkxw] at hwidth h
  rw [hkyh] at hheight h
  have hengine : FileService.maxEngineInteger < (2 ^ 49 : ℕ) := by decide
  have hwidth' : kx * p.raster.width < 2 ^ 49 := Int.ofNat_lt.1 (hwidth.trans_lt hengine)
  have hheight' : ky * p.raster.height < 2 ^ 49 := Int.ofNat_lt.1 (hheight.trans_lt hengine)
  have hkx' : kx ≤ kx * p.raster.width := Nat.le_mul_of_pos_right kx hw
  have hky' : ky ≤ ky * p.raster.height := Nat.le_mul_of_pos_right ky hh
  rw [result_apply, applied_of_kernel hf
    (aim_of_times hw hh hkx hky (by omega) (by omega))] at h
  -- The enlargement has succeeded, so its factors are not too great for the engine.
  have hnear : ¬(Aim.times kx ky p.raster.width p.raster.height).TooFar := by
    intro hfar
    rw [Raster.resampleTo_of_tooFar hfar] at h
    cases h
  obtain ⟨enlarged, henlarged, hsize, hshows⟩ := resampleTo_times (e := engine p.bands) hp hkx hky
    hnear hwidth' hheight' Session.resizeEdge Session.resizeEdge
  rw [henlarged] at h
  cases h
  obtain ⟨r, hr, hrsize, hrshows⟩ := resampleTo_per (e := engine p.bands) hp hkx hky hsize hwidth'
    hheight' hshows
  have hrestored : restored = .ok ⟨p.bands, r, p.origin⟩ := by
    have haim : Aim.of (Picture.mk p.bands enlarged p.origin).size p.size =
        .ok (.per kx ky p.raster.width p.raster.height) := by
      rw [Picture.size, hsize]
      exact aim_of_per hw hh hkx hky
    refine (result_apply engine f p.size Session.resizeEdge Session.resizeEdge _ w).trans ?_
    rw [applied_of_kernel hf haim]
    exact Except.bind_eq_ok_iff.2 ⟨r, hr, rfl⟩
  refine ⟨⟨r, hrestored, hrsize, hrshows⟩, fun hx hy ↦ ?_⟩
  have hsame : p.raster.Shows r id id :=
    hrshows.congr (fun i _ ↦ if_neg hx) fun j _ ↦ if_neg hy
  obtain ⟨hrwidth, hrheight⟩ := Raster.sides_of_size hrsize
  have hraster : r = p.raster := hsame.unique (.refl p.raster) hrwidth hrheight
  rw [hrestored, hraster]

theorem undo_enlargement_threefold :
    ∃ large, ((apply nearestEngine ⟨"Pixel", .kernel .nearest⟩ ⟨6, 1⟩ Session.resizeEdge
        Session.resizeEdge (.ofSamples 2 1 3 UInt8.ofNat)).run ()).result = .ok large ∧
      ((apply nearestEngine ⟨"Pixel", .kernel .nearest⟩ ⟨2, 1⟩ Session.resizeEdge
        Session.resizeEdge large).run ()).result = .ok (.ofSamples 2 1 3 UInt8.ofNat) := by
  have hok : ((apply nearestEngine ⟨"Pixel", .kernel .nearest⟩ ⟨6, 1⟩ Session.resizeEdge
      Session.resizeEdge (.ofSamples 2 1 3 UInt8.ofNat)).run ()).result.toBool = true := by
    decide +kernel
  obtain ⟨large, h⟩ := Except.eq_ok_of_toBool hok
  have hundo := undo_enlargement (p := .ofSamples 2 1 3 UInt8.ofNat) (w := ()) rfl
    ⟨by decide, by decide⟩ 3 1 (by decide) (by decide) (by decide) (by decide) h
  exact ⟨large, h, hundo.2 (by decide) (by decide)⟩

/-- Two different pixels that are doubled and halved again come back as two equal ones. -/
theorem undo_doubling_shifts :
    let p := Picture.ofSamples 2 1 3 UInt8.ofNat
    let resize (p : Picture) (requested : Size) : Except Fault Picture :=
      ((apply nearestEngine ⟨"Pixel", .kernel .nearest⟩ requested Session.resizeEdge
        Session.resizeEdge p).run ()).result
    let restored := resize p ⟨4, 1⟩ >>= fun large ↦ resize large ⟨2, 1⟩
    restored.map Picture.samples = .ok [3, 4, 5, 3, 4, 5] ∧ restored ≠ .ok p := by
  intro p resize restored
  have hshifted : restored.map Picture.samples = .ok [3, 4, 5, 3, 4, 5] := by
    decide +kernel
  refine ⟨hshifted, fun h ↦ ?_⟩
  rw [h] at hshifted
  revert hshifted
  decide +kernel

end BatchScaler.NamedFilter

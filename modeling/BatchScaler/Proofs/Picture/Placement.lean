import BatchScaler.Proofs.Picture.Enlargement

namespace BatchScaler

open BinaryFormat

theorem natCast_le_maxFactor {k : ℕ} (h : binary64.nearest k ≤ maxFactor) : (k : ℚ) ≤ maxFactor := by
  by_contra hlt
  have hnext : 10000001 ≤ k := Nat.cast_lt.1 (not_le.1 hlt)
  have hvalue : binary64.IsValue ((10000001 : ℕ) : ℚ) := isValue_natCast (by norm_num)
  have hnearest := le_nearest precision_binary64 hvalue (Nat.cast_nonneg _)
    (Nat.cast_le (α := ℚ).2 hnext)
  have hmax : maxFactor < ((10000001 : ℕ) : ℚ) := by norm_num [maxFactor]
  exact absurd (hnearest.trans h) (not_le.2 hmax)

namespace Raster

variable {α : Type}

def inBlocks (r : Raster α) (kx ky : ℕ) : Raster α :=
  r.remap (r.width * kx) (r.height * ky) Fin.divNat Fin.divNat

theorem shows_inBlocks (r : Raster α) (kx ky : ℕ) :
    r.Shows (r.inBlocks kx ky) (· / kx) (· / ky) :=
  shows_remap (fun _ ↦ rfl) fun _ ↦ rfl

end Raster

namespace NamedFilter

variable {σ : Type} {engine : Engine} {f : NamedFilter Method} {requested : Size}
  {xMode yMode : EdgeMode} {p p' : Picture}

theorem exists_aim_of_applied {kernel : Kernel} (hf : f.method = .kernel kernel)
    (h : f.applied engine requested xMode yMode p = .ok p') :
    ∃ aim raster, Aim.of p.size requested = .ok aim ∧ ¬aim.TooFar ∧
      p.raster.resampleTo (engine p.bands) kernel aim xMode yMode = .ok raster ∧
        p' = ⟨p.bands, raster, p.origin⟩ := by
  unfold applied at h
  rw [hf] at h
  obtain ⟨aim, haim, h⟩ := Except.bind_eq_ok_iff.1 h
  obtain ⟨raster, hraster, h⟩ := Except.bind_eq_ok_iff.1 h
  cases h
  refine ⟨aim, raster, haim, fun hfar ↦ ?_, hraster, rfl⟩
  rw [Raster.resampleTo_of_tooFar hfar] at hraster
  cases hraster

theorem applied_times (hf : f.method = .kernel .nearest) (hp : p.size.Positive)
    (hwidth : p.size.width < 2 ^ 50) (hheight : p.size.height < 2 ^ 50) {kx ky : ℕ} (hkx : 0 < kx)
    (hky : 0 < ky) (hxmax : (kx : ℚ) ≤ maxFactor) (hymax : (ky : ℚ) ≤ maxFactor)
    (xMode yMode : EdgeMode) :
    f.applied engine ⟨kx * p.size.width, ky * p.size.height⟩ xMode yMode p =
      .ok ⟨p.bands, p.raster.inBlocks kx ky, p.origin⟩ := by
  have hkx' : kx ≤ 10000000 := Nat.cast_le.1 hxmax
  have hky' : ky ≤ 10000000 := Nat.cast_le.1 hymax
  have hrequested : (⟨kx * p.size.width, ky * p.size.height⟩ : Size) =
      ⟨(kx * p.raster.width : ℕ), (ky * p.raster.height : ℕ)⟩ :=
    congrArg₂ Size.mk (Nat.cast_mul _ _).symm (Nat.cast_mul _ _).symm
  have haim := aim_of_times (Raster.width_pos hp) (Raster.height_pos hp) hkx hky
    (hkx'.trans_lt (by norm_num)) (hky'.trans_lt (by norm_num))
  obtain ⟨raster, hraster, hsize, hshows⟩ := resampleTo_in_blocks (e := engine p.bands) hp hkx hky
    (not_or.2 ⟨not_lt.2 hxmax, not_lt.2 hymax⟩) (Int.ofNat_lt.1 hwidth) (Int.ofNat_lt.1 hheight)
    xMode yMode
  obtain ⟨hwidth', hheight'⟩ := Raster.sides_of_size hsize
  have hblocks : raster = p.raster.inBlocks kx ky :=
    hshows.unique (p.raster.shows_inBlocks kx ky) (hwidth'.trans (mul_comm _ _))
      (hheight'.trans (mul_comm _ _))
  rw [hrequested, applied_of_kernel hf haim, hraster, hblocks]
  rfl

theorem le_maxFactor_of_applied (hf : f.method = .kernel .nearest) (hp : p.size.Positive)
    {kx ky : ℕ} (hkx : 0 < kx) (hky : 0 < ky)
    (h : f.applied engine ⟨kx * p.size.width, ky * p.size.height⟩ xMode yMode p = .ok p') :
    (kx : ℚ) ≤ maxFactor ∧ (ky : ℚ) ≤ maxFactor := by
  obtain ⟨aim, -, haim, hnear, -, -⟩ := exists_aim_of_applied hf h
  obtain ⟨hresolve, hhorizontal, hvertical⟩ := Aim.of_eq_ok_iff.1 haim
  have hpositive : Size.Positive ⟨kx * p.size.width, ky * p.size.height⟩ :=
    ⟨mul_pos (Int.natCast_pos.2 hkx) hp.width_pos, mul_pos (Int.natCast_pos.2 hky) hp.height_pos⟩
  rw [resolveSize_of_positive _ hpositive] at hresolve
  have hratio {k : ℕ} {side : ℤ} (hside : 0 < side) : ((k * side : ℤ) / side : ℚ) = k := by
    rw [Int.cast_mul, Int.cast_natCast, mul_div_cancel_right₀ _ (Int.cast_ne_zero.2 hside.ne')]
  obtain ⟨hhmax, hvmax⟩ := not_or.1 hnear
  rw [← Except.ok.inj hresolve] at hhorizontal hvertical
  rw [Scale.between_eq_ok hhorizontal, hratio hp.width_pos] at hhmax
  rw [Scale.between_eq_ok hvertical, hratio hp.height_pos] at hvmax
  exact ⟨natCast_le_maxFactor (not_lt.1 hhmax), natCast_le_maxFactor (not_lt.1 hvmax)⟩

/-- An enlargement by integer factors, unless the engine refuses them, shows every pixel as a block.
Nothing that lies beyond the edge is seen, so that the modes do not matter. Double precision counts
the pixels of every side below `2 ^ 50` exactly; the engine holds none from `2 ^ 31` on. -/
theorem enlarges_in_blocks (hf : f.method = .kernel .nearest) (hp : p.size.Positive)
    (hwidth : p.size.width < 2 ^ 50) (hheight : p.size.height < 2 ^ 50) {kx ky : ℕ} (hkx : 0 < kx)
    (hky : 0 < ky) (xMode yMode : EdgeMode) (p' : Picture) (w : σ) :
    ((f.apply engine ⟨kx * p.size.width, ky * p.size.height⟩ xMode yMode p).run w).result =
        .ok p' ↔
      ((kx : ℚ) ≤ maxFactor ∧ (ky : ℚ) ≤ maxFactor) ∧
        p' = ⟨p.bands, p.raster.inBlocks kx ky, p.origin⟩ := by
  rw [result_apply]
  constructor
  · intro h
    have hmax := le_maxFactor_of_applied hf hp hkx hky h
    rw [applied_times hf hp hwidth hheight hkx hky hmax.1 hmax.2] at h
    exact ⟨hmax, (Except.ok.inj h).symm⟩
  · rintro ⟨⟨hxmax, hymax⟩, rfl⟩
    exact applied_times hf hp hwidth hheight hkx hky hxmax hymax xMode yMode

theorem enlarges_in_blocks_six_by_two :
    let p := Picture.ofSamples 2 1 3 UInt8.ofNat
    ((apply nearestEngine ⟨"Pixel", .kernel .nearest⟩ ⟨6, 2⟩ .mirror .wrap p).run ()).result =
      .ok ⟨3, p.raster.inBlocks 3 2, none⟩ := by
  intro p
  have hmax : ((3 : ℕ) : ℚ) ≤ maxFactor ∧ ((2 : ℕ) : ℚ) ≤ maxFactor := by
    constructor <;> norm_num [maxFactor]
  have hkx : 0 < 3 := by decide
  have hky : 0 < 2 := by decide
  exact (enlarges_in_blocks (p := p) rfl ⟨by decide, by decide⟩ (by decide) (by decide) hkx hky
    .mirror .wrap _ ()).2 ⟨hmax, rfl⟩

/-- Order and place are kept at every scale: neither of the two index maps goes backwards, and none
shows a position anything but what lies under it, or the pixel next to that. -/
theorem keeps_order_and_place (hf : f.method = .kernel .nearest) (hp : p.size.Positive)
    (hwidth : p.size.width ≤ FileService.maxEngineInteger)
    (hheight : p.size.height ≤ FileService.maxEngineInteger) {target : Size}
    (htarget : resolveSize p.size requested = .ok target)
    (hwidth' : target.width ≤ FileService.maxEngineInteger)
    (hheight' : target.height ≤ FileService.maxEngineInteger) {w : σ}
    (h : ((f.apply engine requested .constantExtension .constantExtension p).run w).result =
      .ok p') :
    ∃ raster column row, p' = ⟨p.bands, raster, p.origin⟩ ∧ raster.size = target ∧
      KeepsPlace p.raster.width raster.width column ∧
        KeepsPlace p.raster.height raster.height row ∧ p.raster.Shows raster column row := by
  rw [result_apply] at h
  obtain ⟨aim, raster, haim, hnear, hraster, rfl⟩ := exists_aim_of_applied hf h
  obtain rfl : aim.target = target :=
    Except.ok.inj ((Aim.of_eq_ok_iff.1 haim).1.symm.trans htarget)
  have hbound : FileService.maxEngineInteger < 2 ^ 49 := by decide
  obtain ⟨raster', column, row, hraster', hsize, hkeeps⟩ :=
    Raster.resampleTo_keeps_place (e := engine p.bands) hp haim hnear
      (Int.ofNat_lt.1 (hwidth.trans_lt (hbound.trans (by norm_num))))
      (Int.ofNat_lt.1 (hheight.trans_lt (hbound.trans (by norm_num))))
      (hwidth'.trans_lt hbound) (hheight'.trans_lt hbound)
  obtain rfl : raster = raster' := Except.ok.inj (hraster.symm.trans hraster')
  exact ⟨raster, column, row, rfl, hsize, hkeeps⟩

theorem keeps_order_and_place_both_ways :
    let p := Picture.ofSamples 5 2 3 UInt8.ofNat
    ∃ p', ((apply nearestEngine ⟨"Pixel", .kernel .nearest⟩ ⟨3, 7⟩ .constantExtension
        .constantExtension p).run ()).result = .ok p' ∧
      ∃ raster column row, p' = ⟨3, raster, none⟩ ∧ raster.size = ⟨3, 7⟩ ∧
        KeepsPlace 5 raster.width column ∧ KeepsPlace 2 raster.height row ∧
          p.raster.Shows raster column row := by
  intro p
  have hok : ((apply nearestEngine ⟨"Pixel", .kernel .nearest⟩ ⟨3, 7⟩ .constantExtension
      .constantExtension p).run ()).result.toBool = true := by
    decide +kernel
  have htarget : resolveSize p.size ⟨3, 7⟩ = .ok ⟨3, 7⟩ := rfl
  obtain ⟨p', h⟩ := Except.eq_ok_of_toBool hok
  exact ⟨p', h, keeps_order_and_place rfl ⟨by decide, by decide⟩ (by decide) (by decide) htarget
    (by decide) (by decide) h⟩

end NamedFilter

end BatchScaler

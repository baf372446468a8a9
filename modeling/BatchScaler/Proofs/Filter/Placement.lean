import BatchScaler.Proofs.Filter.Resampling
import BatchScaler.Proofs.Size.Margins

namespace BatchScaler

open BinaryFormat

theorem fitIndex_of_le {length target start i : ℕ} (hlength : start + target ≤ length)
    (hi : i < target) : fitIndex length target start i = start + i := by
  unfold fitIndex cropStart
  omega

namespace Scale

variable {target source start n i : ℕ} {s : Scale} {mode : EdgeMode}

/-- An axis of `source` pixels that is resampled to `target` pixels is cut from the position `start`
on. The margin ends there, and enough pixels come after it. -/
structure Cuts (s : Scale) (target source start : ℕ) : Prop where
  margin_eq : s.resizedMargin kernelMargin = .ok (start : ℤ)
  long_enough : ∃ length : ℕ,
    s.resizedSide ((source + 2 * kernelMargin : ℕ) : ℤ) = .ok (length : ℤ) ∧
      start + target ≤ length

def shownIndex (s : Scale) (mode : EdgeMode) (n start i : ℕ) : ℕ :=
  mode.index n ((min (s.nearestIndex (start + i)) (n + 2 * kernelMargin - 1) : ℕ) - kernelMargin)

theorem sides_of_between (h : between target source = .ok s) :
    s.target = target ∧ s.source = source := by
  rw [between_eq_ok h]
  exact ⟨rfl, rfl⟩

theorem exists_cuts (htarget : 0 < target) (hsource : 0 < source) (htarget' : target < 2 ^ 49)
    (hsource' : source < 2 ^ 50) (h : between target source = .ok s)
    (hmax : s.factor ≤ maxFactor) :
    ∃ start, s.Cuts target source start ∧ Centred target source start := by
  have hnonneg : 0 ≤ s.factor :=
    factor_nonneg_of_between (Int.natCast_nonneg _) (Int.natCast_nonneg _) h
  have hmargin := resizedMargin_eq (n := kernelMargin) (by decide) hnonneg hmax
  have hproduct : 0 ≤ binary64.nearest (kernelMargin * s.factor) :=
    nearest_nonneg (mul_nonneg (Nat.cast_nonneg kernelMargin) hnonneg)
  obtain ⟨start, hstart⟩ := Int.eq_ofNat_of_zero_le (roundHalfEven_nonneg hproduct)
  rw [hstart] at hmargin
  have hcentred := centred_of_resizedMargin htarget hsource htarget' (by omega) h hmax hmargin
  exact ⟨start, ⟨hmargin, exists_resizedSide_of_centred htarget hsource hsource' h hmax hcentred⟩,
    hcentred⟩

theorem resampledIndex_of_le {length : ℕ} (hlength : start + target ≤ length) (hi : i < target) :
    resampledIndex mode n s length target start i = s.shownIndex mode n start i := by
  unfold resampledIndex shownIndex
  rw [Int.toNat_natCast, fitIndex_of_le hlength hi]

section Order

theorem nearestIndex_mono (s : Scale) : Monotone s.nearestIndex := by
  intro i j hij
  unfold nearestIndex
  split <;> gcongr

theorem shownIndex_constantExtension (hn : 0 < n) (start i : ℕ) :
    s.shownIndex .constantExtension n start i =
      min (s.nearestIndex (start + i) - kernelMargin) (n - 1) := by
  unfold shownIndex kernelMargin
  simp only [EdgeMode.index, EdgeMode.extend, Extend.index]
  omega

/-- Half a pixel more or less at the cut moves what lies under a position by at most one pixel where
the axis is enlarged, and by none where it is reduced and the pixels' centres count. -/
theorem nearestIndex_bounds (htarget : 0 < target) (hstart : Centred target source start)
    (hs : s.target = target ∧ s.source = source) (i : ℕ) :
    i * source / target + 2 ≤ s.nearestIndex (start + i) ∧
      s.nearestIndex (start + i) ≤ (i + 1) * source / target + 3 := by
  obtain ⟨hhigh, hlow⟩ := hstart
  obtain ⟨rfl, rfl⟩ := hs
  unfold kernelMargin at hhigh hlow
  unfold nearestIndex
  split
  · next henlarged =>
    rw [← Nat.add_mul_div_right _ _ htarget, ← Nat.add_mul_div_right _ _ htarget]
    constructor
    · refine Nat.div_le_div_right ?_
      linarith
    · refine Nat.div_le_div_right ?_
      linarith
  · have htwice (n : ℕ) : n / s.target + 3 = (2 * n + 3 * (2 * s.target)) / (2 * s.target) := by
      rw [Nat.add_mul_div_right _ _ (Nat.mul_pos two_pos htarget), Nat.mul_div_mul_left _ _ two_pos]
    constructor
    · refine (Nat.le_succ _).trans ?_
      rw [Nat.succ_eq_add_one, add_assoc, htwice]
      refine Nat.div_le_div_right ?_
      linarith
    · rw [htwice]
      refine Nat.div_le_div_right ?_
      linarith

end Order

end Scale

/-- An index map from an axis of `target` pixels to one of `source` pixels keeps the order, and every
position its place: it shows what lies under it, or the pixel before or after. -/
structure KeepsPlace (source target : ℕ) (index : ℕ → ℕ) : Prop where
  monotone : Monotone index
  le_index : ∀ i < target, i * source / target - 1 ≤ index i
  index_le : ∀ i < target, index i ≤ min (source - 1) ((i + 1) * source / target)

theorem keepsPlace_shownIndex {target source start : ℕ} {s : Scale} (htarget : 0 < target)
    (hsource : 0 < source) (hstart : Centred target source start)
    (hs : s.target = target ∧ s.source = source) :
    KeepsPlace source target (s.shownIndex .constantExtension source start) := by
  refine ⟨fun i j hij ↦ ?_, fun i hi ↦ ?_, fun i hi ↦ ?_⟩
  · rw [Scale.shownIndex_constantExtension hsource, Scale.shownIndex_constantExtension hsource]
    have hmono := s.nearestIndex_mono (Nat.add_le_add_left hij start)
    omega
  · obtain ⟨hlow, -⟩ := Scale.nearestIndex_bounds htarget hstart hs i
    have hlast : i * source / target < source :=
      Nat.div_lt_of_lt_mul (Nat.mul_lt_mul_of_pos_right hi hsource)
    rw [Scale.shownIndex_constantExtension hsource]
    unfold kernelMargin
    omega
  · obtain ⟨-, hhigh⟩ := Scale.nearestIndex_bounds htarget hstart hs i
    rw [Scale.shownIndex_constantExtension hsource]
    refine le_min (min_le_right _ _) ((min_le_left _ _).trans ?_)
    exact Nat.sub_le_iff_le_add.2 hhigh

namespace Raster

variable {α : Type} {e : Interpolator α} {r : Raster α} {aim : Aim} {width height : ℕ}

theorem resampleTo_of_cuts (hr : r.size.Positive) (hnear : ¬aim.TooFar) (hwidth : 0 < width)
    (hheight : 0 < height) (htarget : aim.target = ⟨width, height⟩) {left top : ℕ}
    (hleft : aim.horizontal.Cuts width r.width left)
    (htop : aim.vertical.Cuts height r.height top) (xMode yMode : EdgeMode) :
    ∃ r', r.resampleTo e .nearest aim xMode yMode = .ok r' ∧ r'.size = aim.target ∧
      r.Shows r' (aim.horizontal.shownIndex xMode r.width left)
        (aim.vertical.shownIndex yMode r.height top) := by
  obtain ⟨hhmax, hvmax⟩ := not_or.1 hnear
  obtain ⟨hleft, resizedWidth, hresizedWidth, hleftLe⟩ := hleft
  obtain ⟨htop, resizedHeight, hresizedHeight, htopLe⟩ := htop
  have hengine : Scale.engineSize aim.horizontal aim.vertical
      ⟨r.size.width + 2 * kernelMargin, r.size.height + 2 * kernelMargin⟩ =
        .ok ⟨resizedWidth, resizedHeight⟩ :=
    Scale.engineSize_eq (not_lt.1 hhmax) (not_lt.1 hvmax) hresizedWidth hresizedHeight
  obtain ⟨r', hrun, hsize, hshows⟩ := resampleTo_eq (e := e) hr aim
    (htarget ▸ ⟨Int.natCast_pos.2 hwidth, Int.natCast_pos.2 hheight⟩)
    ⟨Int.natCast_pos.2 (by omega), Int.natCast_pos.2 (by omega)⟩
    hengine hleft htop .nearest xMode yMode
  obtain ⟨hwidth', hheight'⟩ := sides_of_size (hsize.trans htarget)
  refine ⟨r', hrun, hsize, (hshows rfl).congr (fun i hi ↦ ?_) fun j hj ↦ ?_⟩
  · rw [htarget]
    exact Scale.resampledIndex_of_le hleftLe (hwidth' ▸ hi)
  · rw [htarget]
    exact Scale.resampledIndex_of_le htopLe (hheight' ▸ hj)

/-- With the edge repeated on both axes, a resample with the nearest kernel keeps order and place. -/
theorem resampleTo_keeps_place (hr : r.size.Positive) {requested : Size}
    (haim : Aim.of r.size requested = .ok aim) (hnear : ¬aim.TooFar) (hwidth : r.width < 2 ^ 50)
    (hheight : r.height < 2 ^ 50) (hwidth' : aim.target.width < 2 ^ 49)
    (hheight' : aim.target.height < 2 ^ 49) :
    ∃ r' column row,
      r.resampleTo e .nearest aim .constantExtension .constantExtension = .ok r' ∧
        r'.size = aim.target ∧ KeepsPlace r.width r'.width column ∧
          KeepsPlace r.height r'.height row ∧ r.Shows r' column row := by
  obtain ⟨hresolve, hhorizontal, hvertical⟩ := Aim.of_eq_ok_iff.1 haim
  obtain ⟨hhmax, hvmax⟩ := not_or.1 hnear
  have hpositive := positive_of_resolveSize hr hresolve
  obtain ⟨width, height, htarget⟩ : ∃ width height : ℕ, aim.target = ⟨width, height⟩ :=
    ⟨_, _, hpositive.nonneg.mk_toNat.symm⟩
  rw [htarget] at hpositive hhorizontal hvertical hwidth' hheight'
  have hw : 0 < width := Int.natCast_pos.1 hpositive.width_pos
  have hh : 0 < height := Int.natCast_pos.1 hpositive.height_pos
  obtain ⟨left, hleft, hleftCentred⟩ := Scale.exists_cuts hw (width_pos hr)
    (Int.ofNat_lt.1 hwidth') hwidth hhorizontal (not_lt.1 hhmax)
  obtain ⟨top, htop, htopCentred⟩ := Scale.exists_cuts hh (height_pos hr)
    (Int.ofNat_lt.1 hheight') hheight hvertical (not_lt.1 hvmax)
  obtain ⟨r', hrun, hsize, hshows⟩ := resampleTo_of_cuts (e := e) hr hnear hw hh htarget hleft htop
    .constantExtension .constantExtension
  obtain ⟨rfl, rfl⟩ := sides_of_size (hsize.trans htarget)
  refine ⟨r', _, _, hrun, hsize, ?_, ?_, hshows⟩
  · exact keepsPlace_shownIndex hw (width_pos hr) hleftCentred (Scale.sides_of_between hhorizontal)
  · exact keepsPlace_shownIndex hh (height_pos hr) htopCentred (Scale.sides_of_between hvertical)

end Raster

end BatchScaler

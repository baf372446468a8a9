import BatchScaler.Proofs.Filter.Placement

namespace BatchScaler

open BinaryFormat

/-- The scale of an axis of `n` pixels that is enlarged `k` times. -/
def Scale.times (k n : ℕ) : Scale :=
  ⟨k * n, n, k⟩

/-- The scale of an axis of `k * n` pixels that is reduced to `n` pixels. -/
def Scale.per (k n : ℕ) : Scale :=
  ⟨n, k * n, binary64.nearest (1 / k)⟩

def reducedMargin : ℕ → ℕ
  | 1 => 3
  | 2 => 2
  | 3 | 4 | 5 => 1
  | _ => 0

/-- The position of the original axis that is shown after an enlargement and its reversal. Reducing
to a half rounds the margin the wrong way, so that the axis is shifted. -/
def restoredIndex (k n i : ℕ) : ℕ :=
  if k = 2 then min (i + 1) (n - 1) else i

variable {k n i : ℕ}

theorem reducedMargin_of_le (h : 6 ≤ k) : reducedMargin k = 0 := by
  unfold reducedMargin
  split <;> omega

section Positions

theorem nearestIndex_times (hn : 0 < n) (hk : 0 < k) (j : ℕ) :
    (Scale.times k n).nearestIndex j = j / k := by
  unfold Scale.nearestIndex Scale.times
  dsimp only
  split
  · rw [mul_comm k n, mul_comm j n, Nat.mul_div_mul_left _ _ hn]
  · next h =>
    obtain rfl : k = 1 := by
      by_contra hne
      exact h (lt_mul_of_one_lt_left hn (by omega))
    rw [one_mul, mul_comm (2 * j + 1), mul_comm 2 n, Nat.mul_div_mul_left _ _ hn]
    omega

theorem nearestIndex_per (hn : 0 < n) (hk : 0 < k) (j : ℕ) :
    (Scale.per k n).nearestIndex j = k * j + k / 2 := by
  have hle : ¬k * n < n := not_lt.2 (Nat.le_mul_of_pos_left n hk)
  unfold Scale.nearestIndex Scale.per
  dsimp only
  rw [if_neg hle, ← mul_assoc, Nat.mul_div_mul_right _ _ hn,
    show (2 * j + 1) * k = 2 * (k * j) + k by ring, Nat.mul_add_div two_pos]

/-- Enlarging shows every pixel `k` times in a row, whatever is beyond the edge. -/
theorem shownIndex_times (mode : EdgeMode) (hn : 0 < n) (hk : 0 < k) (hi : i < k * n) :
    (Scale.times k n).shownIndex mode n (k * kernelMargin) i = i / k := by
  have hquotient : i / k < n := Nat.div_lt_of_lt_mul hi
  have hposition : ((min (kernelMargin + i / k) (n + 2 * kernelMargin - 1) : ℕ) : ℤ) -
      kernelMargin = (i / k : ℕ) := by
    unfold kernelMargin
    omega
  unfold Scale.shownIndex
  rw [nearestIndex_times hn hk, Nat.mul_add_div hk, hposition]
  exact mode.index_of_lt hquotient

/-- Reducing shows one of every `k` pixels in a row, and to a half the one of the row after. -/
theorem shownIndex_per (hn : 0 < n) (hk : 0 < k) (hi : i < n) :
    (Scale.per k n).shownIndex .constantExtension (k * n) (reducedMargin k) i / k =
      restoredIndex k n i := by
  rw [Scale.shownIndex_constantExtension (Nat.mul_pos hk hn), nearestIndex_per hn hk]
  unfold restoredIndex kernelMargin
  by_cases hlarge : 6 ≤ k
  · have hrow : k * i + k ≤ k * n := by
      rw [← Nat.mul_succ]
      exact Nat.mul_le_mul_left k hi
    have hposition : min (k * (0 + i) + k / 2 - 3) (k * n - 1) = k * i + (k / 2 - 3) := by
      rw [Nat.zero_add]
      omega
    rw [reducedMargin_of_le hlarge, hposition, Nat.mul_add_div hk, Nat.div_eq_of_lt (by omega),
      if_neg (by omega)]
    rfl
  · obtain rfl | rfl | rfl | rfl | rfl : k = 1 ∨ k = 2 ∨ k = 3 ∨ k = 4 ∨ k = 5 := by omega
    · rw [show reducedMargin 1 = 3 from rfl, if_neg (by decide)]
      omega
    · rw [show reducedMargin 2 = 2 from rfl, if_pos rfl]
      omega
    · rw [show reducedMargin 3 = 1 from rfl, if_neg (by decide)]
      omega
    · rw [show reducedMargin 4 = 1 from rfl, if_neg (by decide)]
      omega
    · rw [show reducedMargin 5 = 1 from rfl, if_neg (by decide)]
      omega

end Positions

section Factors

theorem between_times (hn : 0 < n) (hbound : k < 2 ^ 53) :
    Scale.between ((k * n : ℕ) : ℤ) n = .ok (.times k n) := by
  have hratio : (((k * n : ℕ) : ℤ) / (n : ℤ) : ℚ) = k := by
    rw [Int.cast_natCast, Int.cast_natCast, Nat.cast_mul,
      mul_div_cancel_right₀ _ (Nat.cast_ne_zero.2 hn.ne')]
  have hlimit : (k : ℚ) < doubleLimit :=
    (natCast_le_maxDouble hbound).trans_lt maxDouble_lt_doubleLimit
  unfold Scale.between
  rw [quotient_of_lt (Int.natCast_nonneg _) (Int.natCast_pos.2 hn) (hratio ▸ hlimit), hratio,
    nearest_of_isValue (isValue_natCast hbound)]
  rfl

theorem resizedMargin_times (hmax : (k : ℚ) ≤ maxFactor) (hk : k < 2 ^ 50) :
    (Scale.times k n).resizedMargin kernelMargin = .ok ((k * kernelMargin : ℕ) : ℤ) := by
  have hproduct : (kernelMargin * (Scale.times k n).factor : ℚ) = (k * kernelMargin : ℕ) := by
    rw [Nat.cast_mul, mul_comm]
    rfl
  have hsmall : k * kernelMargin < 2 ^ 53 := by
    unfold kernelMargin
    omega
  rw [Scale.resizedMargin_eq (by decide) (Nat.cast_nonneg k) hmax, hproduct,
    nearest_of_isValue (isValue_natCast hsmall)]
  exact congrArg Except.ok (roundHalfEven_intCast _)

theorem between_per (hn : 0 < n) (hk : 0 < k) :
    Scale.between n ((k * n : ℕ) : ℤ) = .ok (.per k n) := by
  have hratio : ((n : ℤ) / ((k * n : ℕ) : ℤ) : ℚ) = 1 / k := by
    have hn' : (n : ℚ) ≠ 0 := Nat.cast_ne_zero.2 hn.ne'
    rw [Int.cast_natCast, Int.cast_natCast, Nat.cast_mul]
    field_simp
  have hlimit : (1 / k : ℚ) < doubleLimit := by
    have hone : (1 : ℚ) < doubleLimit := one_le_maxDouble.trans_lt maxDouble_lt_doubleLimit
    refine lt_of_le_of_lt ?_ hone
    exact div_le_one_of_le₀ (by exact_mod_cast hk) (Nat.cast_nonneg k)
  unfold Scale.between
  rw [quotient_of_lt (Int.natCast_nonneg _) (Int.natCast_pos.2 (Nat.mul_pos hk hn))
    (hratio ▸ hlimit), hratio]
  rfl

theorem factor_per_nonneg (k n : ℕ) : 0 ≤ (Scale.per k n).factor :=
  nearest_nonneg (by positivity)

theorem factor_per_le (hk : 0 < k) (n : ℕ) : (Scale.per k n).factor ≤ maxFactor := by
  have hone : binary64.IsValue 1 := isValue_two_zpow (k := 0) (by norm_num)
  have hfactor : (Scale.per k n).factor ≤ 1 := by
    refine nearest_le precision_binary64 hone (by positivity) ?_
    exact div_le_one_of_le₀ (by exact_mod_cast hk) (Nat.cast_nonneg k)
  have hmax : (1 : ℚ) ≤ maxFactor := by
    norm_num [maxFactor]
  exact hfactor.trans hmax

/-- From six on the margin vanishes: three sixths of a pixel go to the even neighbour. -/
theorem resizedMargin_per (hk : 0 < k) (n : ℕ) :
    (Scale.per k n).resizedMargin kernelMargin = .ok (reducedMargin k : ℤ) := by
  rw [Scale.resizedMargin_eq (by decide) (factor_per_nonneg k n) (factor_per_le hk n)]
  refine congrArg Except.ok ?_
  show roundHalfEven (binary64.nearest (3 * binary64.nearest (1 / k))) = reducedMargin k
  by_cases hlarge : 6 ≤ k
  · have hfactor : binary64.nearest (1 / k) ≤ binary64.nearest (1 / 6) := by
      refine nearest_mono precision_binary64 (by positivity) ?_
      exact one_div_le_one_div_of_le (by norm_num) (by exact_mod_cast hlarge)
    have hnonneg : 0 ≤ binary64.nearest (1 / k) := nearest_nonneg (by positivity)
    have hproduct : binary64.nearest (3 * binary64.nearest (1 / k)) ≤ 1 / 2 := by
      have hsixth : binary64.nearest (3 * binary64.nearest (1 / 6)) = 1 / 2 := by
        decide +kernel
      rw [← hsixth]
      exact nearest_mono precision_binary64 (by positivity) (by gcongr)
    have hhalf : roundHalfEven (1 / 2) = 0 := by
      decide +kernel
    rw [reducedMargin_of_le hlarge]
    refine le_antisymm ?_ (roundHalfEven_nonneg (nearest_nonneg (by positivity)))
    exact (roundHalfEven_mono hproduct).trans_eq hhalf
  · obtain rfl | rfl | rfl | rfl | rfl : k = 1 ∨ k = 2 ∨ k = 3 ∨ k = 4 ∨ k = 5 := by omega
    all_goals decide +kernel

theorem cuts_times (hn : 0 < n) (hn' : n < 2 ^ 50) (hk : 0 < k) (hmax : (k : ℚ) ≤ maxFactor) :
    (Scale.times k n).Cuts (k * n) n (k * kernelMargin) := by
  have hk' : k ≤ 10000000 := Nat.cast_le.1 hmax
  have hcentred : Centred (k * n) n (k * kernelMargin) := by
    have hexact : 2 * (k * kernelMargin) * n = 2 * kernelMargin * (k * n) := by ring
    exact ⟨by omega, by omega⟩
  exact ⟨resizedMargin_times hmax (by omega), Scale.exists_resizedSide_of_centred
    (Nat.mul_pos hk hn) hn hn' (between_times hn (by omega)) hmax hcentred⟩

theorem cuts_per (hn : 0 < n) (hk : 0 < k) (hbound : k * n < 2 ^ 49) :
    (Scale.per k n).Cuts n (k * n) (reducedMargin k) := by
  have hn' : n ≤ k * n := Nat.le_mul_of_pos_left n hk
  obtain ⟨start, hcuts, -⟩ := Scale.exists_cuts hn (Nat.mul_pos hk hn) (by omega) (by omega)
    (between_per hn hk) (factor_per_le hk n)
  have hstart : start = reducedMargin k :=
    Int.ofNat_inj.1 (Except.ok.inj (hcuts.margin_eq.symm.trans (resizedMargin_per hk n)))
  rwa [hstart] at hcuts

end Factors

def Aim.times (kx ky width height : ℕ) : Aim :=
  ⟨⟨(kx * width : ℕ), (ky * height : ℕ)⟩, .times kx width, .times ky height⟩

def Aim.per (kx ky width height : ℕ) : Aim :=
  ⟨⟨width, height⟩, .per kx width, .per ky height⟩

section Rasters

variable {kx ky width height : ℕ}

theorem aim_of_times (hwidth : 0 < width) (hheight : 0 < height) (hkx : 0 < kx) (hky : 0 < ky)
    (hkx' : kx < 2 ^ 53) (hky' : ky < 2 ^ 53) :
    Aim.of ⟨width, height⟩ ⟨(kx * width : ℕ), (ky * height : ℕ)⟩ =
      .ok (.times kx ky width height) := by
  refine Aim.of_eq_ok_iff.2 ⟨resolveSize_of_positive _ ⟨?_, ?_⟩, between_times hwidth hkx',
    between_times hheight hky'⟩
  · exact Int.natCast_pos.2 (Nat.mul_pos hkx hwidth)
  · exact Int.natCast_pos.2 (Nat.mul_pos hky hheight)

theorem aim_of_per (hwidth : 0 < width) (hheight : 0 < height) (hkx : 0 < kx) (hky : 0 < ky) :
    Aim.of ⟨(kx * width : ℕ), (ky * height : ℕ)⟩ ⟨width, height⟩ =
      .ok (.per kx ky width height) := by
  refine Aim.of_eq_ok_iff.2 ⟨resolveSize_of_positive _ ⟨?_, ?_⟩, between_per hwidth hkx,
    between_per hheight hky⟩
  · exact Int.natCast_pos.2 hwidth
  · exact Int.natCast_pos.2 hheight

variable {α : Type} {e : Interpolator α} {r large : Raster α}

theorem resampleTo_in_blocks (hr : r.size.Positive) (hkx : 0 < kx) (hky : 0 < ky)
    (hnear : ¬(Aim.times kx ky r.width r.height).TooFar) (hwidth : r.width < 2 ^ 50)
    (hheight : r.height < 2 ^ 50) (xMode yMode : EdgeMode) :
    ∃ large, r.resampleTo e .nearest (.times kx ky r.width r.height) xMode yMode = .ok large ∧
      large.size = ⟨(kx * r.width : ℕ), (ky * r.height : ℕ)⟩ ∧
      r.Shows large (· / kx) (· / ky) := by
  have hw := Raster.width_pos hr
  have hh := Raster.height_pos hr
  obtain ⟨hxmax, hymax⟩ := not_or.1 hnear
  obtain ⟨large, hrun, hsize, hshows⟩ := Raster.resampleTo_of_cuts (e := e) hr hnear
    (Nat.mul_pos hkx hw) (Nat.mul_pos hky hh) rfl (cuts_times hw hwidth hkx (not_lt.1 hxmax))
    (cuts_times hh hheight hky (not_lt.1 hymax)) xMode yMode
  obtain ⟨hlargeWidth, hlargeHeight⟩ := Raster.sides_of_size hsize
  refine ⟨large, hrun, hsize, hshows.congr (fun i hi ↦ ?_) fun j hj ↦ ?_⟩
  · exact shownIndex_times xMode hw hkx (hlargeWidth ▸ hi)
  · exact shownIndex_times yMode hh hky (hlargeHeight ▸ hj)

theorem resampleTo_times (hr : r.size.Positive) (hkx : 0 < kx) (hky : 0 < ky)
    (hnear : ¬(Aim.times kx ky r.width r.height).TooFar)
    (hwidth : kx * r.width < 2 ^ 49) (hheight : ky * r.height < 2 ^ 49) (xMode yMode : EdgeMode) :
    ∃ large, r.resampleTo e .nearest (.times kx ky r.width r.height) xMode yMode = .ok large ∧
      large.size = ⟨(kx * r.width : ℕ), (ky * r.height : ℕ)⟩ ∧
      r.Shows large (· / kx) (· / ky) := by
  have hbound {k n : ℕ} (hk : 0 < k) (h : k * n < 2 ^ 49) : n < 2 ^ 50 :=
    (Nat.le_mul_of_pos_left n hk).trans_lt (h.trans (by norm_num))
  exact resampleTo_in_blocks hr hkx hky hnear (hbound hkx hwidth) (hbound hky hheight) xMode yMode

theorem resampleTo_per (hr : r.size.Positive) (hkx : 0 < kx) (hky : 0 < ky)
    (hsize : large.size = ⟨(kx * r.width : ℕ), (ky * r.height : ℕ)⟩)
    (hwidth : kx * r.width < 2 ^ 49) (hheight : ky * r.height < 2 ^ 49)
    (hshows : r.Shows large (· / kx) (· / ky)) :
    ∃ r', large.resampleTo e .nearest (.per kx ky r.width r.height) .constantExtension
        .constantExtension = .ok r' ∧
      r'.size = r.size ∧ r.Shows r' (restoredIndex kx r.width) (restoredIndex ky r.height) := by
  have hw := Raster.width_pos hr
  have hh := Raster.height_pos hr
  obtain ⟨hlargeWidth, hlargeHeight⟩ := Raster.sides_of_size hsize
  have hlarge : large.size.Positive := by
    rw [hsize]
    exact ⟨Int.natCast_pos.2 (Nat.mul_pos hkx hw), Int.natCast_pos.2 (Nat.mul_pos hky hh)⟩
  have hnear : ¬(Aim.per kx ky r.width r.height).TooFar :=
    not_or.2 ⟨not_lt.2 (factor_per_le hkx _), not_lt.2 (factor_per_le hky _)⟩
  have hleft := cuts_per hw hkx hwidth
  have htop := cuts_per hh hky hheight
  rw [← hlargeWidth] at hleft
  rw [← hlargeHeight] at htop
  obtain ⟨r', hrun, hsize', hshows'⟩ := Raster.resampleTo_of_cuts (e := e) hlarge hnear hw hh rfl
    hleft htop .constantExtension .constantExtension
  obtain ⟨hwidth', hheight'⟩ := Raster.sides_of_size hsize'
  refine ⟨r', hrun, hsize', (hshows.trans hshows').congr (fun i hi ↦ ?_) fun j hj ↦ ?_⟩
  · rw [hlargeWidth]
    exact shownIndex_per hw hkx (hwidth' ▸ hi)
  · rw [hlargeHeight]
    exact shownIndex_per hh hky (hheight' ▸ hj)

end Rasters

end BatchScaler

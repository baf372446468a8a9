import BatchScaler.Proofs.Size.Resolution

namespace BatchScaler

open BinaryFormat

/-- The relative error of double precision, for numbers that are not too small. -/
theorem abs_nearest_sub_le_div {q : ℚ} (h : 1 / 2 ^ 60 ≤ q) :
    |binary64.nearest q - q| ≤ q / 2 ^ 53 := by
  have hpos : 0 < q := lt_of_lt_of_le (by norm_num) h
  have hnormal : (2 : ℚ) ^ (binary64.minExponent + binary64.precision) ≤ q := by
    calc (2 : ℚ) ^ (binary64.minExponent + binary64.precision) ≤ 2 ^ (-60 : ℤ) :=
          zpow_le_zpow_right₀ one_le_two (by decide)
      _ = 1 / 2 ^ 60 := by norm_num
      _ ≤ q := h
  exact abs_nearest_sub_le_mul hpos hnormal

/-- Where an axis that is resized from `source` to `target` pixels is cut: at a whole pixel that is
no more than half a pixel away from the end of the resized margin. -/
structure Centred (target source start : ℕ) : Prop where
  start_le : 2 * start * source ≤ 2 * kernelMargin * target + source
  le_start : 2 * kernelMargin * target ≤ 2 * start * source + source

namespace Scale

variable {target source start n m : ℕ} {length : ℤ} {s : Scale}

theorem one_div_le_ratio (htarget : 0 < target) (hsource : 0 < source) (hbound : source < 2 ^ 53) :
    (1 / 2 ^ 53 : ℚ) ≤ target / source := by
  have hone : (1 : ℚ) ≤ target := Nat.one_le_cast.2 htarget
  have hpos : (0 : ℚ) < source := Nat.cast_pos.2 hsource
  have hle : (source : ℚ) ≤ 2 ^ 53 := by exact_mod_cast hbound.le
  gcongr

theorem abs_factor_sub_le (htarget : 0 < target) (hsource : 0 < source) (hbound : source < 2 ^ 53)
    (h : between target source = .ok s) :
    |s.factor - target / source| ≤ target / source / 2 ^ 53 := by
  have hratio : (1 / 2 ^ 60 : ℚ) ≤ target / source :=
    le_trans (by norm_num) (one_div_le_ratio htarget hsource hbound)
  rw [between_eq_ok h]
  simpa only [Int.cast_natCast] using abs_nearest_sub_le_div hratio

theorem sub_le_mul_factor (htarget : 0 < target) (hsource : 0 < source) (hbound : source < 2 ^ 53)
    (h : between target source = .ok s) (n : ℕ) :
    n * (target / source) - n * (target / source) / 2 ^ 53 ≤ n * s.factor := by
  have hfactor := (abs_le.1 (abs_factor_sub_le htarget hsource hbound h)).1
  calc (n * (target / source) - n * (target / source) / 2 ^ 53 : ℚ)
      = n * (target / source - target / source / 2 ^ 53) := by ring
    _ ≤ n * s.factor := by
        gcongr
        linarith

/-- What double precision adds to the rounding of a margin is less than any two quotients of the
sides are apart, so that it cannot move the cut. -/
theorem centred_of_resizedMargin (htarget : 0 < target) (hsource : 0 < source)
    (htarget' : target < 2 ^ 49) (hsource' : source < 2 ^ 53)
    (h : between target source = .ok s) (hmax : s.factor ≤ maxFactor)
    (hstart : s.resizedMargin kernelMargin = .ok (start : ℤ)) : Centred target source start := by
  have hnonneg : 0 ≤ s.factor :=
    factor_nonneg_of_between (Int.natCast_nonneg _) (Int.natCast_nonneg _) h
  have hsmall := one_div_le_ratio htarget hsource hsource'
  have hfactor := abs_le.1 (abs_factor_sub_le htarget hsource hsource' h)
  have hproduct : (target / source : ℚ) * source = target :=
    div_mul_cancel₀ _ (Nat.cast_ne_zero.2 hsource.ne')
  generalize (target / source : ℚ) = ratio at hsmall hfactor hproduct
  have hmargin := abs_le.1 (abs_nearest_sub_le_div (q := kernelMargin * s.factor) (by
    push_cast [kernelMargin]
    linarith))
  rw [resizedMargin_eq (by decide) hnonneg hmax] at hstart
  have hround := abs_le.1 (abs_roundHalfEven_sub_le (binary64.nearest (kernelMargin * s.factor)))
  rw [Except.ok.inj hstart] at hround
  push_cast [kernelMargin] at hmargin hround
  -- Half a pixel is lost in rounding to a pixel, the rest in the two roundings to doubles.
  have herror : |(start - 3 * ratio) * source| ≤ source / 2 + 7 * target / 2 ^ 53 := by
    have hsourcePos : (0 : ℚ) < source := Nat.cast_pos.2 hsource
    have hstart : |start - 3 * ratio| ≤ 1 / 2 + 7 * ratio / 2 ^ 53 :=
      abs_le.2 ⟨by linarith, by linarith⟩
    rw [abs_mul, abs_of_pos hsourcePos]
    calc |start - 3 * ratio| * source ≤ (1 / 2 + 7 * ratio / 2 ^ 53) * source := by gcongr
      _ = source / 2 + 7 * target / 2 ^ 53 := by rw [← hproduct]; ring
  have hsmallError : (7 * target / 2 ^ 53 : ℚ) < 1 / 2 := by
    have hle : (target : ℚ) < 2 ^ 49 := by exact_mod_cast htarget'
    linarith
  rw [sub_mul, mul_assoc, hproduct] at herror
  obtain ⟨hlow, hhigh⟩ := abs_le.1 herror
  constructor
  · refine Nat.lt_succ_iff.1 (Nat.cast_lt (α := ℚ).1 ?_)
    push_cast [kernelMargin]
    linarith
  · refine Nat.lt_succ_iff.1 (Nat.cast_lt (α := ℚ).1 ?_)
    push_cast [kernelMargin]
    linarith

/-- A resized side is no shorter than a length that the exact product passes by a trifle, however
great the length is. -/
theorem le_resizedSide_of_near (hn : n < 2 ^ 53) (hs : 0 ≤ s.factor) (hmax : s.factor ≤ maxFactor)
    (h : s.resizedSide n = .ok length)
    (hnear : m + n * s.factor / 2 ^ 51 ≤ n * s.factor + 1 / 2) : m ≤ length := by
  rcases Nat.eq_zero_or_pos m with rfl | hm
  · exact resizedSide_nonneg hs (Int.natCast_nonneg n) h
  rw [resizedSide_eq hn hs hmax] at h
  cases h
  have hone : (1 : ℚ) ≤ m := Nat.one_le_cast.2 hm
  have hproduct := abs_le.1 (abs_nearest_sub_le_div (q := n * s.factor) (by linarith))
  have hshifted := abs_le.1 (abs_nearest_sub_le_div
    (q := binary64.nearest (n * s.factor) + 1 / 2) (by linarith))
  refine Int.le_floor.2 ?_
  rw [Int.cast_natCast]
  linarith

theorem exists_length {side : ℤ} (h : s.resizedSide side = .ok length) (hle : m ≤ length) :
    ∃ length : ℕ, s.resizedSide side = .ok (length : ℤ) ∧ m ≤ length := by
  obtain ⟨n, rfl⟩ := Int.eq_ofNat_of_zero_le ((Int.natCast_nonneg m).trans hle)
  exact ⟨n, h, Int.ofNat_le.1 hle⟩

/-- An axis that is resized without a margin is long enough for its target. -/
theorem exists_resizedSide_of_source (htarget : 0 < target) (hsource : 0 < source)
    (htarget' : target < 2 ^ 49) (hsource' : source < 2 ^ 53) (h : between target source = .ok s)
    (hmax : s.factor ≤ maxFactor) :
    ∃ length : ℕ, s.resizedSide source = .ok (length : ℤ) ∧ target ≤ length := by
  have hnonneg : 0 ≤ s.factor :=
    factor_nonneg_of_between (Int.natCast_nonneg _) (Int.natCast_nonneg _) h
  have hlength := resizedSide_eq hsource' hnonneg hmax
  have hsourcePos : (0 : ℚ) < source := Nat.cast_pos.2 hsource
  have hexact := sub_le_mul_factor htarget hsource hsource' h source
  rw [mul_div_cancel₀ _ hsourcePos.ne'] at hexact
  have hsmall : (target / 2 ^ 53 : ℚ) ≤ 1 / 2 := by
    have hle : (target : ℚ) ≤ 2 ^ 49 := by exact_mod_cast htarget'.le
    linarith
  have hnear : (target - 1 / 2 : ℚ) ≤ source * s.factor := by linarith
  exact exists_length hlength (le_resizedSide hsource' (by omega) hnonneg hlength hmax hnear)

/-- A resized axis is long enough for its target, cut out wherever the margin may end. -/
theorem exists_resizedSide_of_centred (htarget : 0 < target) (hsource : 0 < source)
    (hsource' : source < 2 ^ 50) (h : between target source = .ok s) (hmax : s.factor ≤ maxFactor)
    (hstart : Centred target source start) :
    ∃ length : ℕ, s.resizedSide ((source + 2 * kernelMargin : ℕ) : ℤ) = .ok (length : ℤ) ∧
      start + target ≤ length := by
  have hnonneg : 0 ≤ s.factor :=
    factor_nonneg_of_between (Int.natCast_nonneg _) (Int.natCast_nonneg _) h
  have hside : source + 2 * kernelMargin < 2 ^ 53 := by
    unfold kernelMargin
    omega
  have hlength := resizedSide_eq hside hnonneg hmax
  have hsourcePos : (0 : ℚ) < source := Nat.cast_pos.2 hsource
  have hexact := sub_le_mul_factor htarget hsource (by omega) h (source + 2 * kernelMargin)
  have hproduct : (target / source : ℚ) * source = target :=
    div_mul_cancel₀ _ hsourcePos.ne'
  have hratio : (0 : ℚ) < target / source := div_pos (Nat.cast_pos.2 htarget) hsourcePos
  generalize (target / source : ℚ) = ratio at hexact hproduct hratio
  have hstartLe : (start : ℚ) ≤ 3 * ratio + 1 / 2 := by
    have hcentred : (2 * start * source : ℚ) ≤ 6 * target + source := by
      exact_mod_cast hstart.start_le
    refine le_of_mul_le_mul_right ?_ hsourcePos
    linarith
  have htargetLe : (target : ℚ) ≤ ratio * 2 ^ 50 := by
    have hle : (source : ℚ) ≤ 2 ^ 50 := by exact_mod_cast hsource'.le
    rw [← hproduct]
    gcongr
  have hnear : ((start + target : ℕ) + (source + 2 * kernelMargin : ℕ) * s.factor / 2 ^ 51 : ℚ) ≤
      (source + 2 * kernelMargin : ℕ) * s.factor + 1 / 2 := by
    push_cast [kernelMargin] at hexact ⊢
    linarith
  exact exists_length hlength (le_resizedSide_of_near hside hnonneg hmax hlength hnear)

end Scale

end BatchScaler

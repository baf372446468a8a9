import BatchScaler.Proofs.Number.Rounding
import BatchScaler.Proofs.Report.Results
import BatchScaler.Filter.Step

namespace BatchScaler

open BinaryFormat

theorem Except.eq_ok_of_toBool {α : Type} {x : Except Fault α} (h : x.toBool = true) :
    ∃ a, x = .ok a := by
  cases x with
  | error fault => cases h
  | ok a => exact ⟨a, rfl⟩

/-- The least number that rounding takes beyond all numbers of double precision. -/
def doubleLimit : ℚ := (2 ^ 54 - 1) * 2 ^ (970 : ℤ)

def maxDouble : ℚ := (2 ^ 53 - 1) * 2 ^ (971 : ℤ)

theorem precision_binary64 : 0 < binary64.precision := by decide

theorem maxExponent_binary64 : binary64.maxExponent = 1024 := rfl

theorem nearest_doubleLimit : binary64.nearest doubleLimit = 2 ^ (1024 : ℤ) := by
  decide +kernel

theorem doubleLimit_add : doubleLimit + 2 ^ (970 : ℤ) = 2 ^ (1024 : ℤ) := by
  decide +kernel

theorem two_zpow_lt_doubleLimit {k : ℤ} (h : k ≤ 1023) : (2 : ℚ) ^ k < doubleLimit := by
  calc (2 : ℚ) ^ k ≤ 2 ^ (1023 : ℤ) := zpow_le_zpow_right₀ one_le_two h
    _ < doubleLimit := by decide +kernel

theorem maxDouble_lt : maxDouble < 2 ^ (1024 : ℤ) := by
  decide +kernel

theorem maxDouble_lt_doubleLimit : maxDouble < doubleLimit := by
  decide +kernel

theorem roundHalfEven_maxDouble : (roundHalfEven maxDouble : ℚ) = maxDouble := by
  decide +kernel

theorem one_le_maxDouble : 1 ≤ maxDouble := by
  decide +kernel

theorem doubleLimit_pos : 0 < doubleLimit :=
  lt_trans (by positivity) (two_zpow_lt_doubleLimit (le_refl 1023))

theorem isValue_natCast {n : ℕ} (h : n < 2 ^ 53) : binary64.IsValue n := by
  refine ⟨n, 0, by simp, ?_, by decide⟩
  rw [Nat.abs_cast]
  exact_mod_cast h

theorem natCast_le_maxDouble {n : ℕ} (h : n < 2 ^ 53) : (n : ℚ) ≤ maxDouble := by
  have hpower : (2 ^ 53 : ℚ) ≤ maxDouble := by decide +kernel
  refine le_trans ?_ hpower
  exact_mod_cast h.le

theorem isValue_half {n : ℕ} (h : n < 2 ^ 53) : binary64.IsValue (n / 2 : ℚ) := by
  refine ⟨n, -1, by rw [zpow_neg_one, Int.cast_natCast]; rfl, ?_, by decide⟩
  rw [Nat.abs_cast]
  exact_mod_cast h

theorem isValue_two_zpow {k : ℤ} (h : -1074 ≤ k) : binary64.IsValue ((2 : ℚ) ^ k) :=
  ⟨1, k, by simp, by decide, h⟩

theorem isValue_maxDouble : binary64.IsValue maxDouble :=
  ⟨2 ^ 53 - 1, 971, by norm_num [maxDouble], by decide, by decide⟩

theorem nearest_le_maxDouble {q : ℚ} (hq : 0 ≤ q) (h : q < doubleLimit) :
    binary64.nearest q ≤ maxDouble := by
  by_cases hsmall : q ≤ maxDouble
  · exact nearest_le precision_binary64 isValue_maxDouble hq hsmall
  -- Above it the last place is `2 ^ 971`, and half of it is missing to the next multiple.
  have hlarge : 2 ^ (1023 : ℤ) < q := by
    refine lt_trans ?_ (not_le.1 hsmall)
    decide +kernel
  have hpos : 0 < q := lt_trans (by positivity) hlarge
  have hgap : (0 : ℚ) < 2 ^ (970 : ℤ) := by positivity
  have hlog : Int.log 2 q = 1023 := by
    have hlow : 1023 ≤ Int.log 2 q := (Int.zpow_le_iff_le_log one_lt_two hpos).1 hlarge.le
    have hhigh : Int.log 2 q < 1024 := by
      refine (Int.lt_zpow_iff_log_lt one_lt_two hpos).1 (h.trans ?_)
      exact (lt_add_of_pos_right _ hgap).trans_eq doubleLimit_add
    omega
  have hplace : binary64.lastPlace q = 971 := by
    rw [lastPlace_eq hpos.ne', abs_of_pos hpos, hlog]
    rfl
  have hscaled : q / 2 ^ (971 : ℤ) < 2 ^ 53 - 1 / 2 := by
    rw [div_lt_iff₀ (by positivity)]
    refine h.trans_eq ?_
    decide +kernel
  have hround : roundHalfEven (q / 2 ^ (971 : ℤ)) < 2 ^ 53 := by
    have herror := (abs_le.1 (abs_roundHalfEven_sub_le (q / 2 ^ (971 : ℤ)))).2
    have : (roundHalfEven (q / 2 ^ (971 : ℤ)) : ℚ) < 2 ^ 53 := by linarith
    exact_mod_cast this
  have hround' : (roundHalfEven (q / 2 ^ (971 : ℤ)) : ℚ) ≤ 2 ^ 53 - 1 := by
    exact_mod_cast Int.le_sub_one_of_lt hround
  rw [nearest_eq hpos.ne', hplace]
  exact mul_le_mul_of_nonneg_right hround' (by positivity)

theorem nearest_lt_of_lt {q : ℚ} (hq : 0 ≤ q) (h : q < doubleLimit) :
    binary64.nearest q < 2 ^ (1024 : ℤ) :=
  (nearest_le_maxDouble hq h).trans_lt maxDouble_lt

theorem toDouble_eq {q : ℚ} (hq : 0 ≤ q) :
    toDouble q =
      if binary64.nearest q < 2 ^ binary64.maxExponent then .ok (binary64.nearest q)
      else .error .overflow := by
  unfold toDouble
  rw [round?_eq hq]
  by_cases h : binary64.nearest q < 2 ^ binary64.maxExponent
  · rw [if_pos h, if_pos h]
  · rw [if_neg h, if_neg h]

theorem toDouble_of_lt {q : ℚ} (hq : 0 ≤ q) (h : q < doubleLimit) :
    toDouble q = .ok (binary64.nearest q) := by
  rw [toDouble_eq hq, maxExponent_binary64, if_pos (nearest_lt_of_lt hq h)]

theorem toDouble_of_le {q : ℚ} (h : doubleLimit ≤ q) : toDouble q = .error .overflow := by
  have hlarge : 2 ^ (1024 : ℤ) ≤ binary64.nearest q := by
    rw [← nearest_doubleLimit]
    exact nearest_mono precision_binary64 doubleLimit_pos.le h
  rw [toDouble_eq (doubleLimit_pos.le.trans h), maxExponent_binary64, if_neg (not_lt.2 hlarge)]

theorem eq_nearest_of_toDouble {q v : ℚ} (h : toDouble q = .ok v) : v = binary64.nearest q := by
  unfold toDouble round? at h
  dsimp only at h
  split at h
  · next value hround =>
    split at hround
    · cases h
      exact (Option.some.inj hround).symm
    · cases hround
  · cases h

theorem quotient_eq {num den : ℤ} (h : den ≠ 0) : quotient num den = toDouble (num / den) :=
  if_neg h

theorem eq_nearest_of_quotient {num den : ℤ} {v : ℚ} (h : quotient num den = .ok v) :
    v = binary64.nearest (num / den) := by
  unfold quotient at h
  split at h
  · cases h
  · exact eq_nearest_of_toDouble h

namespace Scale

variable {s : Scale}

theorem between_eq_ok {target source : ℤ} (h : between target source = .ok s) :
    s = ⟨target.toNat, source.toNat, binary64.nearest (target / source)⟩ := by
  obtain ⟨factor, hfactor, hs⟩ := Except.bind_eq_ok_iff.1 h
  cases hs
  rw [eq_nearest_of_quotient hfactor]

theorem factor_nonneg_of_between {target source : ℤ} (htarget : 0 ≤ target)
    (hsource : 0 ≤ source) (h : between target source = .ok s) : 0 ≤ s.factor := by
  rw [between_eq_ok h]
  exact nearest_nonneg (div_nonneg (Int.cast_nonneg htarget) (Int.cast_nonneg hsource))

theorem resizedSide_nonneg (hs : 0 ≤ s.factor) {side length : ℤ} (hside : 0 ≤ side)
    (h : s.resizedSide side = .ok length) : 0 ≤ length := by
  obtain ⟨n, hn, h⟩ := Except.bind_eq_ok_iff.1 h
  obtain ⟨product, hproduct, h⟩ := Except.bind_eq_ok_iff.1 h
  obtain ⟨shifted, hshifted, h⟩ := Except.bind_eq_ok_iff.1 h
  cases h
  have hnNonneg : 0 ≤ n := by
    rw [eq_nearest_of_toDouble hn]
    exact nearest_nonneg (by exact_mod_cast hside)
  have hproductNonneg : 0 ≤ product := by
    rw [eq_nearest_of_toDouble hproduct]
    exact nearest_nonneg (mul_nonneg hnNonneg hs)
  have hshiftedNonneg : 0 ≤ shifted := by
    rw [eq_nearest_of_toDouble hshifted]
    exact nearest_nonneg (by linarith)
  exact Int.floor_nonneg.2 hshiftedNonneg

/-- A factor that the engine takes makes no side overflow. -/
theorem resizedSide_eq {n : ℕ} (hn : n < 2 ^ 53) (hs : 0 ≤ s.factor) (hmax : s.factor ≤ maxFactor) :
    s.resizedSide n =
      .ok ⌊binary64.nearest (binary64.nearest (n * s.factor) + 1 / 2)⌋ := by
  have hnReal : (n : ℚ) ≤ 2 ^ 53 := by exact_mod_cast hn.le
  have hproduct : n * s.factor ≤ 2 ^ (77 : ℤ) := by
    calc n * s.factor ≤ 2 ^ 53 * maxFactor := by gcongr
      _ ≤ 2 ^ (77 : ℤ) := by norm_num [maxFactor]
  have hproductNonneg : 0 ≤ n * s.factor := by positivity
  have hrounded : binary64.nearest (n * s.factor) ≤ 2 ^ (77 : ℤ) :=
    nearest_le precision_binary64 (isValue_two_zpow (by norm_num)) hproductNonneg hproduct
  have hlimit : (2 : ℚ) ^ (77 : ℤ) + 1 / 2 < doubleLimit := by
    have := two_zpow_lt_doubleLimit (show (78 : ℤ) ≤ 1023 by norm_num)
    linarith
  have hroundedNonneg : 0 ≤ binary64.nearest (n * s.factor) := nearest_nonneg hproductNonneg
  have hside : toDouble ((n : ℤ) : ℚ) = .ok (n : ℚ) := by
    rw [Int.cast_natCast, toDouble_of_lt (Nat.cast_nonneg n) (by linarith),
      nearest_of_isValue (isValue_natCast hn)]
  unfold resizedSide
  rw [hside]
  show (toDouble (n * s.factor) >>= _) = _
  rw [toDouble_of_lt hproductNonneg (by linarith)]
  show (toDouble (binary64.nearest (n * s.factor) + 1 / 2) >>= _) = _
  rw [toDouble_of_lt (by linarith) (by linarith)]
  rfl

/-- A resized side is no shorter than a length that the exact product comes near to. -/
theorem le_resizedSide {n m : ℕ} (hn : n < 2 ^ 53) (hm : m < 2 ^ 52) (hs : 0 ≤ s.factor)
    {length : ℤ} (h : s.resizedSide n = .ok length) (hmax : s.factor ≤ maxFactor)
    (hnear : (m : ℚ) - 1 / 2 ≤ n * s.factor) : (m : ℤ) ≤ length := by
  rw [resizedSide_eq hn hs hmax] at h
  cases h
  rcases Nat.eq_zero_or_pos m with rfl | hpos
  · refine Int.floor_nonneg.2 (nearest_nonneg ?_)
    have hproduct : 0 ≤ binary64.nearest (n * s.factor) := nearest_nonneg (by positivity)
    linarith
  have hhalf : ((2 * m - 1 : ℕ) : ℚ) / 2 = m - 1 / 2 := by
    rw [Nat.cast_sub (by omega)]
    push_cast
    ring
  have hproduct : (m : ℚ) - 1 / 2 ≤ binary64.nearest (n * s.factor) := by
    rw [← hhalf] at hnear ⊢
    exact le_nearest precision_binary64 (isValue_half (by omega)) (by positivity) hnear
  refine Int.le_floor.2 ?_
  rw [Int.cast_natCast]
  exact le_nearest precision_binary64 (isValue_natCast (by omega)) (Nat.cast_nonneg m)
    (by linarith)

theorem resizedMargin_eq {n : ℕ} (hn : n < 2 ^ 53) (hs : 0 ≤ s.factor)
    (hmax : s.factor ≤ maxFactor) :
    s.resizedMargin n = .ok (roundHalfEven (binary64.nearest (n * s.factor))) := by
  have hnReal : (n : ℚ) ≤ 2 ^ 53 := by exact_mod_cast hn.le
  have hproduct : n * s.factor < doubleLimit := by
    calc n * s.factor ≤ 2 ^ 53 * maxFactor := by gcongr
      _ ≤ 2 ^ (77 : ℤ) := by norm_num [maxFactor]
      _ < doubleLimit := two_zpow_lt_doubleLimit (by norm_num)
  unfold resizedMargin
  rw [toDouble_of_lt (by positivity) hproduct]
  rfl

end Scale

end BatchScaler

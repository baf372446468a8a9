import Mathlib.Algebra.Order.Field.Power
import Mathlib.Algebra.Ring.Int.Parity
import Mathlib.Data.Int.Log
import Mathlib.Data.Rat.Floor
import Mathlib.Tactic.FieldSimp
import Mathlib.Tactic.Linarith
import Mathlib.Tactic.NormNum
import Mathlib.Tactic.Positivity
import Mathlib.Tactic.Ring
import BatchScaler.Number.Rounding

namespace BatchScaler

theorem magnitude_eq_abs (q : ℚ) : magnitude q = |q| := by
  unfold magnitude
  split
  · next h => exact (abs_of_neg h).symm
  · next h => exact (abs_of_nonneg (not_lt.1 h)).symm

theorem abs_roundHalfEven_sub_le (q : ℚ) : |(roundHalfEven q : ℚ) - q| ≤ 1 / 2 := by
  have hlow : (q.floor : ℚ) ≤ q := Int.floor_le q
  have hhigh : q < (q.floor : ℚ) + 1 := Int.lt_floor_add_one q
  unfold roundHalfEven
  dsimp only
  split_ifs <;> push_cast <;> rw [abs_le] <;> constructor <;> linarith

theorem roundHalfEven_intCast (n : ℤ) : roundHalfEven n = n := by
  have h := abs_le.1 (abs_roundHalfEven_sub_le n)
  have hlow : n - 1 < roundHalfEven n := by
    have : (n : ℚ) - 1 < roundHalfEven n := by linarith
    exact_mod_cast this
  have hhigh : roundHalfEven n < n + 1 := by
    have : (roundHalfEven n : ℚ) < n + 1 := by linarith
    exact_mod_cast this
  omega

/-- Two rationals that are rounded the wrong way round are both the half between their values, so
they are equal. -/
theorem roundHalfEven_mono {p q : ℚ} (h : p ≤ q) : roundHalfEven p ≤ roundHalfEven q := by
  by_contra hlt
  have hstep : (roundHalfEven q : ℚ) + 1 ≤ roundHalfEven p := by
    exact_mod_cast Int.add_one_le_iff.2 (not_le.1 hlt)
  have hp := abs_le.1 (abs_roundHalfEven_sub_le p)
  have hq := abs_le.1 (abs_roundHalfEven_sub_le q)
  obtain rfl : p = q := by linarith
  exact hlt le_rfl

theorem roundHalfEven_nonneg {q : ℚ} (h : 0 ≤ q) : 0 ≤ roundHalfEven q := by
  have hzero := roundHalfEven_intCast 0
  rw [← hzero]
  exact roundHalfEven_mono (by exact_mod_cast h)

theorem abs_roundHalfEven_le {q : ℚ} {m : ℤ} (h : |q| ≤ m) : |roundHalfEven q| ≤ m := by
  obtain ⟨hlow, hhigh⟩ := abs_le.1 h
  refine abs_le.2 ⟨?_, ?_⟩
  · rw [← roundHalfEven_intCast (-m)]
    exact roundHalfEven_mono (by exact_mod_cast hlow)
  · rw [← roundHalfEven_intCast m]
    exact roundHalfEven_mono hhigh

structure NearestInteger (q : ℚ) (n : ℤ) : Prop where
  nearest : ∀ k : ℤ, |(n : ℚ) - q| ≤ |(k : ℚ) - q|
  even_of_tie : ∀ k : ℤ, k ≠ n → |(k : ℚ) - q| = |(n : ℚ) - q| → Even n

section NearestInteger

variable {q : ℚ} {n : ℤ}

theorem half_le_abs_sub {k : ℤ} (hk : k ≠ n) (h : |(n : ℚ) - q| ≤ 1 / 2) :
    1 / 2 ≤ |(k : ℚ) - q| := by
  have hgap : (1 : ℚ) ≤ |(k : ℚ) - n| := by
    exact_mod_cast Int.one_le_abs (sub_ne_zero.2 hk)
  have htriangle := abs_sub_le (k : ℚ) q n
  rw [abs_sub_comm q] at htriangle
  linarith

theorem nearestInteger_of_half (h : |(n : ℚ) - q| ≤ 1 / 2)
    (heven : |(n : ℚ) - q| = 1 / 2 → Even n) : NearestInteger q n := by
  constructor
  · intro k
    rcases eq_or_ne k n with rfl | hk
    · exact le_rfl
    · exact h.trans (half_le_abs_sub hk h)
  · intro k hk htie
    have hhalf := half_le_abs_sub hk h
    rw [htie] at hhalf
    exact heven (le_antisymm h hhalf)

theorem even_roundHalfEven (h : |(roundHalfEven q : ℚ) - q| = 1 / 2) : Even (roundHalfEven q) := by
  have hlow : (q.floor : ℚ) ≤ q := Int.floor_le q
  have hhigh : q < (q.floor : ℚ) + 1 := Int.lt_floor_add_one q
  revert h
  unfold roundHalfEven
  dsimp only
  split_ifs with hbelow habove heven
  · intro h
    rw [abs_sub_comm, abs_of_nonneg (by linarith)] at h
    linarith
  · intro h
    push_cast at h
    rw [abs_of_nonneg (by linarith)] at h
    linarith
  · exact fun _ ↦ Int.even_iff.2 heven
  · exact fun _ ↦ Int.even_iff.2 (by omega)

theorem nearestInteger_roundHalfEven (q : ℚ) : NearestInteger q (roundHalfEven q) :=
  nearestInteger_of_half (abs_roundHalfEven_sub_le q) even_roundHalfEven

/-- Of two integers that are equally near at most one is even. -/
theorem NearestInteger.roundHalfEven_eq (h : NearestInteger q n) : roundHalfEven q = n := by
  by_contra hne
  have hround := nearestInteger_roundHalfEven q
  have htie : |(roundHalfEven q : ℚ) - q| = |(n : ℚ) - q| :=
    le_antisymm (hround.nearest n) (h.nearest _)
  have heven : Even n := h.even_of_tie _ hne htie
  have heven' : Even (roundHalfEven q) := hround.even_of_tie n (Ne.symm hne) htie.symm
  have hhalf := abs_roundHalfEven_sub_le q
  have hgap : |((roundHalfEven q - n : ℤ) : ℚ)| ≤ 1 := by
    push_cast
    calc |(roundHalfEven q : ℚ) - n| ≤ |(roundHalfEven q : ℚ) - q| + |q - n| := abs_sub_le _ _ _
      _ = |(roundHalfEven q : ℚ) - q| + |(roundHalfEven q : ℚ) - q| := by
          rw [abs_sub_comm q, htie]
      _ ≤ 1 := by linarith
  have hgap' : |roundHalfEven q - n| ≤ 1 := by exact_mod_cast hgap
  obtain ⟨m, hm⟩ := heven'.sub heven
  have hbounds := abs_le.1 hgap'
  omega

end NearestInteger

theorem binaryExponent_eq_log {q : ℚ} (hq : q ≠ 0) : binaryExponent q = Int.log 2 |q| := by
  have hpos : 0 < |q| := abs_pos.2 hq
  have hnum : q.num.natAbs ≠ 0 := Int.natAbs_ne_zero.2 (Rat.num_ne_zero.2 hq)
  have hden : q.den ≠ 0 := q.den_nz
  have habs : |q| = (q.num.natAbs : ℚ) / q.den := by
    rw [Nat.cast_natAbs, Int.cast_abs]
    nth_rewrite 1 [← Rat.num_div_den q]
    rw [abs_div, Nat.abs_cast]
  have hdenPos : (0 : ℚ) < q.den := by exact_mod_cast Nat.pos_of_ne_zero hden
  -- Numerator and denominator each lie between two neighbouring powers of two.
  have hnumLow : (2 : ℚ) ^ (Nat.log2 q.num.natAbs : ℤ) ≤ q.num.natAbs := by
    rw [zpow_natCast]
    exact_mod_cast Nat.log2_self_le hnum
  have hnumHigh : (q.num.natAbs : ℚ) < (2 : ℚ) ^ ((Nat.log2 q.num.natAbs : ℤ) + 1) := by
    have h : q.num.natAbs < 2 ^ (Nat.log2 q.num.natAbs + 1) := Nat.lt_log2_self
    exact_mod_cast h
  have hdenLow : (2 : ℚ) ^ (Nat.log2 q.den : ℤ) ≤ q.den := by
    rw [zpow_natCast]
    exact_mod_cast Nat.log2_self_le hden
  have hdenHigh : (q.den : ℚ) < (2 : ℚ) ^ ((Nat.log2 q.den : ℤ) + 1) := by
    have h : q.den < 2 ^ (Nat.log2 q.den + 1) := Nat.lt_log2_self
    exact_mod_cast h
  unfold binaryExponent
  dsimp only
  generalize (Nat.log2 q.num.natAbs : ℤ) = a at *
  generalize (Nat.log2 q.den : ℤ) = b at *
  have hlow : (2 : ℚ) ^ (a - b - 1) ≤ |q| := by
    rw [habs, le_div_iff₀ hdenPos]
    calc (2 : ℚ) ^ (a - b - 1) * q.den ≤ (2 : ℚ) ^ (a - b - 1) * (2 : ℚ) ^ (b + 1) := by
          gcongr
      _ = (2 : ℚ) ^ a := by rw [← zpow_add₀ two_ne_zero]; congr 1; ring
      _ ≤ q.num.natAbs := hnumLow
  have hhigh : |q| < (2 : ℚ) ^ (a - b + 1) := by
    rw [habs, div_lt_iff₀ hdenPos]
    calc (q.num.natAbs : ℚ) < (2 : ℚ) ^ (a + 1) := hnumHigh
      _ = (2 : ℚ) ^ (a - b + 1) * (2 : ℚ) ^ b := by
          rw [← zpow_add₀ two_ne_zero]; congr 1; ring
      _ ≤ (2 : ℚ) ^ (a - b + 1) * q.den := by gcongr
  have hle : ∀ k : ℤ, (2 : ℚ) ^ k ≤ |q| ↔ k ≤ Int.log 2 |q| := fun k ↦
    Int.zpow_le_iff_le_log one_lt_two hpos
  have hlt : ∀ k : ℤ, |q| < (2 : ℚ) ^ k ↔ Int.log 2 |q| < k := fun k ↦
    Int.lt_zpow_iff_log_lt one_lt_two hpos
  rw [hle] at hlow
  rw [hlt] at hhigh
  split
  · next h =>
    rw [magnitude_eq_abs] at h
    have := (hle _).1 h
    omega
  · next h =>
    rw [magnitude_eq_abs] at h
    have := (hlt _).1 (not_le.1 h)
    omega

namespace BinaryFormat

variable (format : BinaryFormat)

/-- The format has the number, if it had no greatest value. -/
def IsValue (v : ℚ) : Prop :=
  ∃ m e : ℤ, v = m * 2 ^ e ∧ |m| < 2 ^ format.precision ∧ format.minExponent ≤ e

variable {format}

theorem lastPlace_eq {q : ℚ} (hq : q ≠ 0) :
    format.lastPlace q = max (Int.log 2 |q| - format.precision + 1) format.minExponent := by
  rw [lastPlace, binaryExponent_eq_log hq]

theorem nearest_zero : format.nearest 0 = 0 := rfl

theorem nearest_eq {q : ℚ} (hq : q ≠ 0) :
    format.nearest q =
      roundHalfEven (q / 2 ^ format.lastPlace q) * 2 ^ format.lastPlace q := by
  rw [nearest, if_neg hq]

theorem nearest_nonneg {q : ℚ} (hq : 0 ≤ q) : 0 ≤ format.nearest q := by
  rcases hq.eq_or_lt with rfl | hpos
  · exact le_rfl
  · rw [nearest_eq hpos.ne']
    have hround : 0 ≤ roundHalfEven (q / 2 ^ format.lastPlace q) :=
      roundHalfEven_nonneg (by positivity)
    have hround' : (0 : ℚ) ≤ roundHalfEven (q / 2 ^ format.lastPlace q) := by exact_mod_cast hround
    positivity

theorem le_nearest_of_multiple {q : ℚ} (hq : q ≠ 0) {m : ℤ}
    (h : m * 2 ^ format.lastPlace q ≤ q) : m * 2 ^ format.lastPlace q ≤ format.nearest q := by
  have hunit : (0 : ℚ) < 2 ^ format.lastPlace q := by positivity
  have hround : m ≤ roundHalfEven (q / 2 ^ format.lastPlace q) := by
    rw [← roundHalfEven_intCast m]
    exact roundHalfEven_mono ((le_div_iff₀ hunit).2 h)
  rw [nearest_eq hq]
  have hround' : (m : ℚ) ≤ roundHalfEven (q / 2 ^ format.lastPlace q) := by exact_mod_cast hround
  gcongr

theorem nearest_le_of_multiple {q : ℚ} (hq : q ≠ 0) {m : ℤ}
    (h : q ≤ m * 2 ^ format.lastPlace q) : format.nearest q ≤ m * 2 ^ format.lastPlace q := by
  have hunit : (0 : ℚ) < 2 ^ format.lastPlace q := by positivity
  have hround : roundHalfEven (q / 2 ^ format.lastPlace q) ≤ m := by
    rw [← roundHalfEven_intCast m]
    exact roundHalfEven_mono ((div_le_iff₀ hunit).2 h)
  rw [nearest_eq hq]
  have hround' : (roundHalfEven (q / 2 ^ format.lastPlace q) : ℚ) ≤ m := by exact_mod_cast hround
  gcongr

theorem exists_multiple {k l : ℤ} (h : l ≤ k) : ∃ m : ℤ, (2 : ℚ) ^ k = m * 2 ^ l := by
  obtain ⟨d, rfl⟩ := Int.exists_add_of_le h
  refine ⟨2 ^ d, ?_⟩
  rw [zpow_add₀ two_ne_zero, zpow_natCast]
  push_cast
  ring

theorem nearest_of_isValue {v : ℚ} (h : format.IsValue v) : format.nearest v = v := by
  obtain ⟨m, e, hv, hm, he⟩ := h
  by_cases hzero : v = 0
  · rw [hzero, nearest_zero]
  have hplace : format.lastPlace v ≤ e := by
    rw [lastPlace_eq hzero]
    refine max_le ?_ he
    have hlog : Int.log 2 |v| < format.precision + e := by
      refine (Int.lt_zpow_iff_log_lt one_lt_two (abs_pos.2 hzero)).1 ?_
      have hm' : |(m : ℚ)| < 2 ^ format.precision := by exact_mod_cast hm
      rw [hv, abs_mul, abs_of_pos (show (0 : ℚ) < 2 ^ e by positivity), Nat.cast_ofNat,
        zpow_add₀ two_ne_zero, zpow_natCast]
      gcongr
    omega
  obtain ⟨n, hn⟩ := exists_multiple hplace
  have hmultiple : v = (m * n : ℤ) * 2 ^ format.lastPlace v := by
    nth_rewrite 1 [hv]
    rw [hn]
    push_cast
    ring
  refine le_antisymm ?_ ?_
  · nth_rewrite 2 [hmultiple]
    exact nearest_le_of_multiple hzero hmultiple.le
  · nth_rewrite 1 [hmultiple]
    exact le_nearest_of_multiple hzero hmultiple.ge

theorem lastPlace_mono {p q : ℚ} (hp : 0 < p) (h : p ≤ q) :
    format.lastPlace p ≤ format.lastPlace q := by
  have hq : 0 < q := hp.trans_le h
  rw [lastPlace_eq hp.ne', lastPlace_eq hq.ne', abs_of_pos hp, abs_of_pos hq]
  have hlog : Int.log 2 p ≤ Int.log 2 q := Int.log_mono_right hp h
  omega

/-- Rounding keeps the order. Where the last places differ, a power of two stands between the two
numbers, and it is a multiple of both last places. -/
theorem nearest_mono (hformat : 0 < format.precision) {p q : ℚ} (hp : 0 ≤ p) (h : p ≤ q) :
    format.nearest p ≤ format.nearest q := by
  rcases hp.eq_or_lt with rfl | hpos
  · exact nearest_nonneg h
  have hq : 0 < q := hpos.trans_le h
  have hplace : format.lastPlace p ≤ format.lastPlace q := lastPlace_mono hpos h
  rcases hplace.eq_or_lt with heq | hlt
  · rw [nearest_eq hpos.ne', nearest_eq hq.ne', heq]
    have hround : roundHalfEven (p / 2 ^ format.lastPlace q) ≤
        roundHalfEven (q / 2 ^ format.lastPlace q) := roundHalfEven_mono (by gcongr)
    have hround' : (roundHalfEven (p / 2 ^ format.lastPlace q) : ℚ) ≤
        roundHalfEven (q / 2 ^ format.lastPlace q) := by exact_mod_cast hround
    gcongr
  have hplaces : format.lastPlace q ≤ Int.log 2 q ∧ Int.log 2 p < Int.log 2 q := by
    rw [lastPlace_eq hpos.ne', lastPlace_eq hq.ne', abs_of_pos hpos, abs_of_pos hq] at hlt
    rw [lastPlace_eq hq.ne', abs_of_pos hq]
    omega
  have hbelow : p ≤ 2 ^ Int.log 2 q :=
    ((Int.lt_zpow_iff_log_lt one_lt_two hpos).2 hplaces.2).le
  have habove : 2 ^ Int.log 2 q ≤ q := Int.zpow_log_le_self one_lt_two hq
  obtain ⟨m, hm⟩ := exists_multiple (hlt.le.trans hplaces.1)
  obtain ⟨n, hn⟩ := exists_multiple hplaces.1
  calc format.nearest p ≤ m * 2 ^ format.lastPlace p :=
        nearest_le_of_multiple hpos.ne' (hm ▸ hbelow)
    _ = n * 2 ^ format.lastPlace q := by rw [← hm, hn]
    _ ≤ format.nearest q := le_nearest_of_multiple hq.ne' (hn ▸ habove)

theorem le_nearest (hformat : 0 < format.precision) {v q : ℚ} (hv : format.IsValue v)
    (hzero : 0 ≤ v) (h : v ≤ q) : v ≤ format.nearest q := by
  have hmono := nearest_mono hformat hzero h
  rwa [nearest_of_isValue hv] at hmono

theorem nearest_le (hformat : 0 < format.precision) {v q : ℚ} (hv : format.IsValue v)
    (hzero : 0 ≤ q) (h : q ≤ v) : format.nearest q ≤ v := by
  have hmono := nearest_mono hformat hzero h
  rwa [nearest_of_isValue hv] at hmono

theorem abs_nearest_sub_le (q : ℚ) : |format.nearest q - q| ≤ 2 ^ format.lastPlace q / 2 := by
  by_cases hq : q = 0
  · rw [hq, nearest_zero, sub_zero, abs_zero]
    positivity
  have hunit : (0 : ℚ) < 2 ^ format.lastPlace q := by positivity
  have herror := abs_roundHalfEven_sub_le (q / 2 ^ format.lastPlace q)
  have hscaled : format.nearest q - q =
      (roundHalfEven (q / 2 ^ format.lastPlace q) - q / 2 ^ format.lastPlace q) *
        2 ^ format.lastPlace q := by
    rw [nearest_eq hq, sub_mul, div_mul_cancel₀ _ hunit.ne']
  rw [hscaled, abs_mul, abs_of_pos hunit]
  calc _ ≤ 1 / 2 * (2 : ℚ) ^ format.lastPlace q := by gcongr
    _ = 2 ^ format.lastPlace q / 2 := by ring

/-- The relative error of rounding, for numbers that are not too small. -/
theorem abs_nearest_sub_le_mul {q : ℚ} (hq : 0 < q)
    (hnormal : (2 : ℚ) ^ (format.minExponent + format.precision) ≤ q) :
    |format.nearest q - q| ≤ q / 2 ^ format.precision := by
  have hlog : format.minExponent + format.precision ≤ Int.log 2 q :=
    (Int.zpow_le_iff_le_log one_lt_two hq).1 hnormal
  have hplace : format.lastPlace q = Int.log 2 q - format.precision + 1 := by
    rw [lastPlace_eq hq.ne', abs_of_pos hq]
    omega
  have hpower : (2 : ℚ) ^ Int.log 2 q ≤ q := Int.zpow_log_le_self one_lt_two hq
  refine (abs_nearest_sub_le q).trans ?_
  rw [hplace, le_div_iff₀ (by positivity)]
  calc (2 : ℚ) ^ (Int.log 2 q - format.precision + 1) / 2 * 2 ^ format.precision
      = 2 ^ Int.log 2 q := by
        rw [zpow_add₀ two_ne_zero, zpow_sub₀ two_ne_zero, zpow_natCast, zpow_one]
        field_simp
    _ ≤ q := hpower

/-- Rounding ends in the format. Where it reaches the next power of two, that power is a value of a
greater exponent. -/
theorem isValue_nearest (hformat : 0 < format.precision) (q : ℚ) :
    format.IsValue (format.nearest q) := by
  by_cases hq : q = 0
  · rw [hq, nearest_zero]
    exact ⟨0, format.minExponent, by simp, by positivity, le_rfl⟩
  have hmin : format.minExponent ≤ format.lastPlace q := le_max_right _ _
  have hscaled : |q / 2 ^ format.lastPlace q| ≤ ((2 ^ format.precision : ℤ) : ℚ) := by
    have hplace : Int.log 2 |q| + 1 ≤ format.precision + format.lastPlace q := by
      rw [lastPlace_eq hq]
      omega
    rw [abs_div, abs_of_pos (show (0 : ℚ) < 2 ^ format.lastPlace q by positivity),
      div_le_iff₀ (by positivity)]
    calc |q| ≤ 2 ^ (Int.log 2 |q| + 1) := (Int.lt_zpow_succ_log_self one_lt_two _).le
      _ ≤ 2 ^ (format.precision + format.lastPlace q) := zpow_le_zpow_right₀ one_le_two hplace
      _ = ((2 ^ format.precision : ℤ) : ℚ) * 2 ^ format.lastPlace q := by
          rw [zpow_add₀ two_ne_zero, zpow_natCast]
          push_cast
          rfl
  have hround := abs_roundHalfEven_le hscaled
  rw [nearest_eq hq]
  generalize roundHalfEven (q / 2 ^ format.lastPlace q) = m at hround ⊢
  rcases hround.lt_or_eq with hlt | heq
  · exact ⟨m, format.lastPlace q, rfl, hlt, hmin⟩
  · obtain ⟨u, hu, rfl⟩ : ∃ u : ℤ, |u| = 1 ∧ m = u * 2 ^ format.precision := by
      rcases (abs_eq (by positivity)).1 heq with rfl | rfl
      · exact ⟨1, by decide, (one_mul _).symm⟩
      · exact ⟨-1, by decide, (neg_one_mul _).symm⟩
    refine ⟨u, format.precision + format.lastPlace q, ?_, ?_, by omega⟩
    · rw [zpow_add₀ two_ne_zero, zpow_natCast, ← mul_assoc]
      push_cast
      rfl
    · rw [hu]
      exact one_lt_pow₀ one_lt_two hformat.ne'

/-- A value of the format is rounded to an integer that the format has: below the integers' last
place there is no fraction, above it the integer is small. -/
theorem isValue_roundHalfEven (hformat : 0 < format.precision) (hmin : format.minExponent ≤ 0) {v : ℚ}
    (h : format.IsValue v) : format.IsValue (roundHalfEven v) := by
  obtain ⟨m, e, hv, hm, he⟩ := h
  rcases le_or_gt 0 e with hpos | hneg
  · obtain ⟨k, rfl⟩ := Int.eq_ofNat_of_zero_le hpos
    have hinteger : v = (m * 2 ^ k : ℤ) := by
      rw [hv, zpow_natCast]
      push_cast
      rfl
    rw [hinteger, roundHalfEven_intCast]
    exact ⟨m, k, by rw [zpow_natCast]; push_cast; rfl, hm, he⟩
  · refine ⟨roundHalfEven v, 0, by rw [zpow_zero, mul_one], ?_, hmin⟩
    obtain ⟨p, hp⟩ := Nat.exists_eq_succ_of_ne_zero hformat.ne'
    have hhalf : |v| ≤ ((2 ^ p : ℤ) : ℚ) := by
      have hm' : |(m : ℚ)| ≤ 2 ^ format.precision := by exact_mod_cast hm.le
      calc |v| = |(m : ℚ)| * 2 ^ e := by
            rw [hv, abs_mul, abs_of_pos (show (0 : ℚ) < 2 ^ e by positivity)]
        _ ≤ 2 ^ format.precision * 2 ^ (-1 : ℤ) := by
            gcongr
            · exact one_le_two
            · omega
        _ = ((2 ^ p : ℤ) : ℚ) := by
            rw [hp, pow_succ, zpow_neg_one, mul_inv_cancel_right₀ two_ne_zero]
            push_cast
            rfl
    refine (abs_roundHalfEven_le hhalf).trans_lt ?_
    rw [hp, pow_succ]
    linarith [show (0 : ℤ) < 2 ^ p by positivity]

theorem round?_eq {q : ℚ} (hq : 0 ≤ q) :
    format.round? q =
      if format.nearest q < 2 ^ format.maxExponent then some (format.nearest q) else none := by
  unfold round?
  dsimp only
  rw [magnitude_eq_abs, abs_of_nonneg (nearest_nonneg hq)]

end BinaryFormat

end BatchScaler

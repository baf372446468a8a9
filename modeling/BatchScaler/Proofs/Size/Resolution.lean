import BatchScaler.Filter.KernelPlan
import BatchScaler.Proofs.Size.Doubles

namespace BatchScaler

open BinaryFormat

namespace Size

structure Nonneg (s : Size) : Prop where
  width_nonneg : 0 ≤ s.width
  height_nonneg : 0 ≤ s.height

structure Positive (s : Size) : Prop where
  width_pos : 0 < s.width
  height_pos : 0 < s.height

variable {s : Size}

theorem Positive.nonneg (h : s.Positive) : s.Nonneg :=
  ⟨h.width_pos.le, h.height_pos.le⟩

theorem Nonneg.mk_toNat (h : s.Nonneg) : (⟨s.width.toNat, s.height.toNat⟩ : Size) = s :=
  congrArg₂ Size.mk (Int.toNat_of_nonneg h.width_nonneg) (Int.toNat_of_nonneg h.height_nonneg)

/-- To carry out a request, a division goes beyond double precision: the one that an open axis
follows from, or the factor of an axis. -/
def Overflows (natural requested : Size) : Prop :=
  if requested.width ≤ 0 ∧ requested.height ≤ 0 then False
  else if requested.width ≤ 0 then
    doubleLimit ≤ (natural.width * requested.height / natural.height : ℚ)
  else if requested.height ≤ 0 then
    doubleLimit ≤ (natural.height * requested.width / natural.width : ℚ)
  else
    doubleLimit ≤ (requested.width / natural.width : ℚ) ∨
      doubleLimit ≤ (requested.height / natural.height : ℚ)

end Size

theorem quotient_of_lt {num den : ℤ} (hnum : 0 ≤ num) (hden : 0 < den)
    (h : (num / den : ℚ) < doubleLimit) :
    quotient num den = .ok (binary64.nearest (num / den)) := by
  have hpos : (0 : ℚ) ≤ num / den := div_nonneg (Int.cast_nonneg hnum) (Int.cast_nonneg hden.le)
  rw [quotient_eq hden.ne', toDouble_of_lt hpos h]

theorem quotient_of_le {num den : ℤ} (hden : 0 < den) (h : doubleLimit ≤ (num / den : ℚ)) :
    quotient num den = .error .overflow := by
  rw [quotient_eq hden.ne', toDouble_of_le h]

section ProportionalSide

variable {side given other : ℤ}

theorem positive_of_proportionalSide {n : ℤ} (h : proportionalSide side given other = .ok n) :
    0 < n := by
  obtain ⟨q, -, h⟩ := Except.bind_eq_ok_iff.1 h
  cases h
  exact lt_of_lt_of_le one_pos (le_max_left 1 (roundHalfEven q))

theorem proportionalSide_of_le (hother : 0 < other)
    (h : doubleLimit ≤ (side * given / other : ℚ)) :
    proportionalSide side given other = .error .overflow := by
  unfold proportionalSide
  rw [quotient_of_le hother (by exact_mod_cast h)]
  rfl

/-- A side that does not overflow is no greater than the greatest double. -/
theorem proportionalSide_of_lt (hside : 0 < side) (hgiven : 0 < given) (hother : 0 < other)
    (h : (side * given / other : ℚ) < doubleLimit) :
    ∃ n, proportionalSide side given other = .ok n ∧ (n : ℚ) ≤ maxDouble := by
  have hproduct : 0 ≤ side * given := (mul_pos hside hgiven).le
  refine ⟨max 1 (roundHalfEven (binary64.nearest ((side * given : ℤ) / other))), ?_, ?_⟩
  · unfold proportionalSide
    rw [quotient_of_lt hproduct hother (by exact_mod_cast h)]
    rfl
  · have hrounded : binary64.nearest ((side * given : ℤ) / other) ≤ maxDouble := by
      refine nearest_le_maxDouble ?_ (by exact_mod_cast h)
      exact div_nonneg (Int.cast_nonneg hproduct) (Int.cast_nonneg hother.le)
    have hinteger : (roundHalfEven (binary64.nearest ((side * given : ℤ) / other)) : ℚ) ≤
        maxDouble := by
      rw [← roundHalfEven_maxDouble]
      exact_mod_cast roundHalfEven_mono hrounded
    rw [Int.cast_max, Int.cast_one]
    exact max_le one_le_maxDouble hinteger

end ProportionalSide

variable {natural requested target : Size}

theorem resolveSize_cases (natural requested : Size) :
    (resolveSize natural requested = .ok natural ∧ ¬natural.Overflows requested) ∨
    (0 < requested.height ∧
      resolveSize natural requested =
        (proportionalSide natural.width requested.height natural.height >>=
          fun width ↦ .ok ⟨width, requested.height⟩) ∧
      (natural.Overflows requested ↔
        doubleLimit ≤ (natural.width * requested.height / natural.height : ℚ))) ∨
    (0 < requested.width ∧
      resolveSize natural requested =
        (proportionalSide natural.height requested.width natural.width >>=
          fun height ↦ .ok ⟨requested.width, height⟩) ∧
      (natural.Overflows requested ↔
        doubleLimit ≤ (natural.height * requested.width / natural.width : ℚ))) ∨
    (requested.Positive ∧ resolveSize natural requested = .ok requested ∧
      (natural.Overflows requested ↔
        doubleLimit ≤ (requested.width / natural.width : ℚ) ∨
          doubleLimit ≤ (requested.height / natural.height : ℚ))) := by
  unfold resolveSize Size.Overflows
  by_cases hwidth : requested.width ≤ 0
  · by_cases hheight : requested.height ≤ 0
    · left
      rw [if_pos ⟨hwidth, hheight⟩, if_pos ⟨hwidth, hheight⟩]
      exact ⟨rfl, id⟩
    · right; left
      have hboth : ¬(requested.width ≤ 0 ∧ requested.height ≤ 0) := fun h ↦ hheight h.2
      rw [if_neg hboth, if_neg hboth, if_pos hwidth, if_pos hwidth]
      exact ⟨not_le.1 hheight, rfl, Iff.rfl⟩
  · have hboth : ¬(requested.width ≤ 0 ∧ requested.height ≤ 0) := fun h ↦ hwidth h.1
    rw [if_neg hboth, if_neg hboth, if_neg hwidth, if_neg hwidth]
    by_cases hheight : requested.height ≤ 0
    · right; right; left
      rw [if_pos hheight, if_pos hheight]
      exact ⟨not_le.1 hwidth, rfl, Iff.rfl⟩
    · right; right; right
      rw [if_neg hheight, if_neg hheight]
      exact ⟨⟨not_le.1 hwidth, not_le.1 hheight⟩, rfl, Iff.rfl⟩

theorem resolveSize_of_positive (natural : Size) (h : requested.Positive) :
    resolveSize natural requested = .ok requested := by
  unfold resolveSize
  rw [if_neg fun hboth ↦ not_le.2 h.width_pos hboth.1, if_neg (not_le.2 h.width_pos),
    if_neg (not_le.2 h.height_pos)]

theorem positive_of_resolveSize (hnatural : natural.Positive)
    (h : resolveSize natural requested = .ok target) : target.Positive := by
  rcases resolveSize_cases natural requested with
    ⟨hresolve, -⟩ | ⟨hgiven, hresolve, -⟩ | ⟨hgiven, hresolve, -⟩ | ⟨hgiven, hresolve, -⟩
  · rw [hresolve] at h
    cases h
    exact hnatural
  · rw [hresolve] at h
    obtain ⟨width, hside, h⟩ := Except.bind_eq_ok_iff.1 h
    cases h
    exact ⟨positive_of_proportionalSide hside, hgiven⟩
  · rw [hresolve] at h
    obtain ⟨height, hside, h⟩ := Except.bind_eq_ok_iff.1 h
    cases h
    exact ⟨hgiven, positive_of_proportionalSide hside⟩
  · rw [hresolve] at h
    cases h
    exact hgiven

theorem div_side_lt {n : ℚ} {side : ℤ} (hn : 0 ≤ n) (hside : 0 < side) (h : n < doubleLimit) :
    n / side < doubleLimit := by
  have hone : (1 : ℚ) ≤ side := by exact_mod_cast hside
  exact (div_le_self hn hone).trans_lt h

theorem given_div_lt {side given other : ℤ} (hside : 0 < side) (hgiven : 0 < given)
    (hother : 0 < other) (h : (side * given / other : ℚ) < doubleLimit) :
    (given / other : ℚ) < doubleLimit := by
  refine lt_of_le_of_lt ?_ h
  have hone : (1 : ℚ) ≤ side := by exact_mod_cast hside
  have hgiven' : (0 : ℚ) < given := by exact_mod_cast hgiven
  have hother' : (0 : ℚ) < other := by exact_mod_cast hother
  gcongr
  exact le_mul_of_one_le_left hgiven'.le hone

/-- Where a request does not overflow, neither does a factor of its size. -/
theorem resolveSize_of_not_overflows (hnatural : natural.Positive)
    (h : ¬natural.Overflows requested) :
    ∃ target, resolveSize natural requested = .ok target ∧
      (target.width / natural.width : ℚ) < doubleLimit ∧
      (target.height / natural.height : ℚ) < doubleLimit := by
  have hwidth := hnatural.width_pos
  have hheight := hnatural.height_pos
  rcases resolveSize_cases natural requested with
    ⟨hresolve, -⟩ | ⟨hgiven, hresolve, hiff⟩ | ⟨hgiven, hresolve, hiff⟩ | ⟨-, hresolve, hiff⟩
  · have hone : (1 : ℚ) < doubleLimit := one_le_maxDouble.trans_lt maxDouble_lt_doubleLimit
    refine ⟨natural, hresolve, ?_, ?_⟩
    · rwa [div_self (Int.cast_ne_zero.2 hwidth.ne')]
    · rwa [div_self (Int.cast_ne_zero.2 hheight.ne')]
  · rw [hiff, not_le] at h
    obtain ⟨n, hside, hn⟩ := proportionalSide_of_lt hwidth hgiven hheight h
    have hpos : (0 : ℚ) ≤ n := Int.cast_nonneg (positive_of_proportionalSide hside).le
    refine ⟨⟨n, requested.height⟩, ?_, ?_, given_div_lt hwidth hgiven hheight h⟩
    · rw [hresolve, hside]
      rfl
    · exact div_side_lt hpos hwidth (hn.trans_lt maxDouble_lt_doubleLimit)
  · rw [hiff, not_le] at h
    obtain ⟨n, hside, hn⟩ := proportionalSide_of_lt hheight hgiven hwidth h
    have hpos : (0 : ℚ) ≤ n := Int.cast_nonneg (positive_of_proportionalSide hside).le
    refine ⟨⟨requested.width, n⟩, ?_, given_div_lt hheight hgiven hwidth h, ?_⟩
    · rw [hresolve, hside]
      rfl
    · exact div_side_lt hpos hheight (hn.trans_lt maxDouble_lt_doubleLimit)
  · rw [hiff, not_or, not_le, not_le] at h
    exact ⟨requested, hresolve, h.1, h.2⟩

theorem between_of_lt {target source : ℤ} (htarget : 0 < target) (hsource : 0 < source)
    (h : (target / source : ℚ) < doubleLimit) : ∃ s, Scale.between target source = .ok s := by
  unfold Scale.between
  rw [quotient_of_lt htarget.le hsource h]
  exact ⟨_, rfl⟩

theorem between_of_le {target source : ℤ} (hsource : 0 < source)
    (h : doubleLimit ≤ (target / source : ℚ)) : Scale.between target source = .error .overflow := by
  unfold Scale.between
  rw [quotient_of_le hsource h]
  rfl

theorem between_self {n : ℤ} (hn : 0 < n) : Scale.between n n = .ok ⟨n.toNat, n.toNat, 1⟩ := by
  have hratio : (n / n : ℚ) = 1 := div_self (Int.cast_ne_zero.2 hn.ne')
  have hone : binary64.nearest 1 = 1 := nearest_of_isValue (isValue_two_zpow (k := 0) (by norm_num))
  have hlimit : (1 : ℚ) < doubleLimit := one_le_maxDouble.trans_lt maxDouble_lt_doubleLimit
  unfold Scale.between
  rw [quotient_of_lt hn.le hn (hratio ▸ hlimit), hratio, hone]
  rfl

theorem Aim.of_eq_ok_iff {aim : Aim} :
    Aim.of natural requested = .ok aim ↔
      resolveSize natural requested = .ok aim.target ∧
        Scale.between aim.target.width natural.width = .ok aim.horizontal ∧
          Scale.between aim.target.height natural.height = .ok aim.vertical := by
  constructor
  · intro h
    obtain ⟨target, htarget, h⟩ := Except.bind_eq_ok_iff.1 h
    obtain ⟨horizontal, hhorizontal, h⟩ := Except.bind_eq_ok_iff.1 h
    obtain ⟨vertical, hvertical, h⟩ := Except.bind_eq_ok_iff.1 h
    cases h
    exact ⟨htarget, hhorizontal, hvertical⟩
  · rintro ⟨htarget, hhorizontal, hvertical⟩
    exact Except.bind_eq_ok_iff.2 ⟨_, htarget, Except.bind_eq_ok_iff.2 ⟨_, hhorizontal,
      Except.bind_eq_ok_iff.2 ⟨_, hvertical, rfl⟩⟩⟩

theorem aim_of_not_overflows (hnatural : natural.Positive) (h : ¬natural.Overflows requested) :
    ∃ aim, Aim.of natural requested = .ok aim := by
  obtain ⟨target, htarget, hw, hh⟩ := resolveSize_of_not_overflows hnatural h
  have hpositive := positive_of_resolveSize hnatural htarget
  obtain ⟨horizontal, hhorizontal⟩ := between_of_lt hpositive.width_pos hnatural.width_pos hw
  obtain ⟨vertical, hvertical⟩ := between_of_lt hpositive.height_pos hnatural.height_pos hh
  exact ⟨⟨target, horizontal, vertical⟩, Aim.of_eq_ok_iff.2 ⟨htarget, hhorizontal, hvertical⟩⟩

theorem aim_of_overflows (hnatural : natural.Positive) (h : natural.Overflows requested) :
    Aim.of natural requested = .error .overflow := by
  have hwidth := hnatural.width_pos
  have hheight := hnatural.height_pos
  unfold Aim.of
  rcases resolveSize_cases natural requested with
    ⟨-, hnever⟩ | ⟨-, hresolve, hiff⟩ | ⟨-, hresolve, hiff⟩ | ⟨hgiven, hresolve, hiff⟩
  · exact absurd h hnever
  · rw [hresolve, proportionalSide_of_le hheight (hiff.1 h)]
    rfl
  · rw [hresolve, proportionalSide_of_le hwidth (hiff.1 h)]
    rfl
  · rw [hresolve]
    show (Scale.between requested.width natural.width >>= _) = _
    by_cases hfirst : doubleLimit ≤ (requested.width / natural.width : ℚ)
    · rw [between_of_le hwidth hfirst]
      rfl
    · obtain ⟨horizontal, hhorizontal⟩ :=
        between_of_lt hgiven.width_pos hwidth (not_le.1 hfirst)
      rw [hhorizontal]
      show (Scale.between requested.height natural.height >>= _) = _
      rw [between_of_le hheight ((hiff.1 h).resolve_left hfirst)]
      rfl

/-- Undoing the division that a factor comes from leaves at least a half. -/
theorem half_le_mul_nearest {target source : ℤ} (htarget : 0 < target) (hsource : 0 < source)
    (hbound : source < 2 ^ 52) : (1 / 2 : ℚ) ≤ source * binary64.nearest (target / source) := by
  have hpos : (0 : ℚ) < source := by exact_mod_cast hsource
  have hone : (1 : ℚ) ≤ target := by exact_mod_cast htarget
  have hlow : (2 : ℚ) ^ Int.log 2 (source : ℚ) ≤ source := Int.zpow_log_le_self one_lt_two hpos
  have hhigh : (source : ℚ) < 2 ^ (Int.log 2 (source : ℚ) + 1) :=
    Int.lt_zpow_succ_log_self one_lt_two _
  have hlog : Int.log 2 (source : ℚ) < 52 := by
    refine (Int.lt_zpow_iff_log_lt one_lt_two hpos).1 ?_
    exact_mod_cast hbound
  generalize Int.log 2 (source : ℚ) = k at *
  have hquotient : (2 : ℚ) ^ (-(k + 1)) ≤ target / source := by
    rw [zpow_neg, ← one_div]
    gcongr
  have hfactor : (2 : ℚ) ^ (-(k + 1)) ≤ binary64.nearest (target / source) :=
    le_nearest precision_binary64 (isValue_two_zpow (by omega)) (by positivity) hquotient
  calc (1 / 2 : ℚ) = 2 ^ k * 2 ^ (-(k + 1)) := by
        rw [← zpow_add₀ two_ne_zero, show k + -(k + 1) = -1 by ring, zpow_neg_one]
        norm_num
    _ ≤ source * binary64.nearest (target / source) := by gcongr

/-- A side that is not shorter than the one a factor was meant for keeps at least one pixel. -/
theorem exists_resizedSide {target source : ℤ} {s : Scale} (h : Scale.between target source = .ok s)
    (htarget : 0 < target) (hsource : 0 < source) {n : ℕ} (hle : source ≤ n) (hn : n < 2 ^ 52)
    (hmax : s.factor ≤ maxFactor) : ∃ length, s.resizedSide n = .ok length ∧ 0 < length := by
  have hnonneg := Scale.factor_nonneg_of_between htarget.le hsource.le h
  have hside := Scale.resizedSide_eq (n := n) (by omega) hnonneg hmax
  refine ⟨_, hside, ?_⟩
  have hhalf : (1 / 2 : ℚ) ≤ n * s.factor := by
    have hle' : (source : ℚ) ≤ n := by exact_mod_cast hle
    have hfactor : s.factor = binary64.nearest (target / source) := by
      rw [Scale.between_eq_ok h]
    calc (1 / 2 : ℚ) ≤ source * s.factor := by
          rw [hfactor]
          exact half_le_mul_nearest htarget hsource (by omega)
      _ ≤ n * s.factor := by gcongr
  have hlength := Scale.le_resizedSide (m := 1) (by omega) (by norm_num) hnonneg hside hmax
    (by push_cast; linarith)
  exact lt_of_lt_of_le one_pos hlength

end BatchScaler

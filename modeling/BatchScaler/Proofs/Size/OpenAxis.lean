import BatchScaler.Proofs.Size.Margins
import BatchScaler.Proofs.Size.Proportion

namespace BatchScaler

open BinaryFormat

variable {n : ℤ}

section TwiceRounded

variable {num den : ℤ}

theorem isValue_add_half (hn : 0 ≤ n) (hbound : n < 2 ^ 52) : binary64.IsValue (n + 1 / 2) := by
  obtain ⟨m, rfl⟩ := Int.eq_ofNat_of_zero_le hn
  have hhalf : ((m : ℤ) + 1 / 2 : ℚ) = ((2 * m + 1 : ℕ) : ℚ) / 2 := by
    push_cast
    ring
  rw [hhalf]
  exact isValue_half (by omega)

theorem one_le_abs_half_sub_mul (hden : 0 < den) (hne : (num / den : ℚ) ≠ n + 1 / 2) :
    1 ≤ |(n + 1 / 2 : ℚ) - num / den| * (2 * den) := by
  have hden' : (0 : ℚ) < den := Int.cast_pos.2 hden
  have hscaled : ((n + 1 / 2 : ℚ) - num / den) * (2 * den) = ((2 * n + 1) * den - 2 * num : ℤ) := by
    push_cast
    field_simp
  -- Over the common denominator the two are different integers.
  have hnonzero : (2 * n + 1) * den - 2 * num ≠ 0 := by
    intro hzero
    rw [hzero, Int.cast_zero, mul_eq_zero, sub_eq_zero] at hscaled
    exact hne (hscaled.resolve_right (by positivity)).symm
  calc (1 : ℚ) ≤ |((2 * n + 1) * den - 2 * num : ℤ)| := by exact_mod_cast Int.one_le_abs hnonzero
    _ = |((n + 1 / 2 : ℚ) - num / den) * (2 * den)| := by rw [hscaled, Int.cast_abs]
    _ = |(n + 1 / 2 : ℚ) - num / den| * (2 * den) := by
      rw [abs_mul, abs_of_pos (show (0 : ℚ) < 2 * den by positivity)]

theorem quarter_le_of_nearest_eq {q : ℚ} (hq : 0 ≤ q) (h : binary64.nearest q = n + 1 / 2) :
    1 / 4 ≤ q := by
  have hvalue : (0 : ℚ) ≤ n + 1 / 2 := h ▸ nearest_nonneg hq
  have hn : 0 ≤ n := by
    have : (-1 : ℚ) < n := by linarith
    have : -1 < n := by exact_mod_cast this
    omega
  have hn' : (0 : ℚ) ≤ n := Int.cast_nonneg hn
  by_contra hsmall
  have hquarter : binary64.nearest q ≤ 2 ^ (-2 : ℤ) :=
    nearest_le precision_binary64 (isValue_two_zpow (by decide)) hq
      ((not_le.1 hsmall).le.trans_eq (by norm_num))
  rw [h] at hquarter
  norm_num at hquarter
  linarith

/-- A quotient that is not half-way between two integers is further from there than rounding to a
double moves it. -/
theorem eq_half_of_nearest_eq (hnum : 0 ≤ num) (hbound : num < 2 ^ 52) (hden : 0 < den)
    (h : binary64.nearest (num / den) = n + 1 / 2) : (num / den : ℚ) = n + 1 / 2 := by
  have hden' : (0 : ℚ) < den := Int.cast_pos.2 hden
  have hnum' : (num : ℚ) < 2 ^ 52 := by exact_mod_cast hbound
  have hnonneg : (0 : ℚ) ≤ num / den := div_nonneg (Int.cast_nonneg hnum) hden'.le
  have hlarge : (1 / 4 : ℚ) ≤ num / den := quarter_le_of_nearest_eq hnonneg h
  have herror : |(n + 1 / 2 : ℚ) - num / den| ≤ num / den / 2 ^ 53 := by
    rw [← h]
    exact abs_nearest_sub_le_div (le_trans (by norm_num) hlarge)
  by_contra hne
  have hless : |(n + 1 / 2 : ℚ) - num / den| * (2 * den) < 1 := by
    calc |(n + 1 / 2 : ℚ) - num / den| * (2 * den) ≤ num / den / 2 ^ 53 * (2 * den) := by gcongr
      _ = num / 2 ^ 52 := by field_simp
      _ < 1 := by linarith
  exact absurd (one_le_abs_half_sub_mul hden hne) (not_le.2 hless)

theorem abs_sub_nearest_le_half {q : ℚ} (hq : 0 ≤ q) (hn : 0 ≤ n) (hbound : n < 2 ^ 52)
    (h : |(n : ℚ) - q| ≤ 1 / 2) : |(n : ℚ) - binary64.nearest q| ≤ 1 / 2 := by
  obtain ⟨hlow, hhigh⟩ := abs_le.1 h
  -- The half-way points around `n` are doubles themselves, so that no rounding crosses them.
  have hup : binary64.nearest q ≤ n + 1 / 2 :=
    nearest_le precision_binary64 (isValue_add_half hn hbound) hq (by linarith)
  have hdown : (n : ℚ) - 1 / 2 ≤ binary64.nearest q := by
    rcases hn.eq_or_lt with rfl | hpos
    · have hvalue : 0 ≤ binary64.nearest q := nearest_nonneg hq
      push_cast
      linarith
    · have hpos' : (1 : ℚ) ≤ n := by exact_mod_cast hpos
      have hhalf : ((n - 1 : ℤ) + 1 / 2 : ℚ) = n - 1 / 2 := by
        push_cast
        ring
      have hvalue : binary64.IsValue ((n : ℚ) - 1 / 2) :=
        hhalf ▸ isValue_add_half (n := n - 1) (by omega) (by omega)
      exact le_nearest precision_binary64 hvalue (by linarith) (by linarith)
  exact abs_le.2 ⟨by linarith, by linarith⟩

theorem abs_sub_div_eq_half (hnum : 0 ≤ num) (hbound : num < 2 ^ 52) (hden : 0 < den)
    (h : |(n : ℚ) - binary64.nearest (num / den)| = 1 / 2) : |(n : ℚ) - num / den| = 1 / 2 := by
  rcases (abs_eq (by norm_num)).1 h with hbelow | habove
  · have hhalf := eq_half_of_nearest_eq (n := n - 1) hnum hbound hden (by push_cast; linarith)
    push_cast at hhalf
    exact (abs_eq (by norm_num)).2 (.inl (by linarith))
  · have hhalf := eq_half_of_nearest_eq (n := n) hnum hbound hden (by linarith)
    exact (abs_eq (by norm_num)).2 (.inr (by linarith))

/-- To round a quotient to a double first does not change the integer that it is rounded to. -/
theorem roundHalfEven_nearest_div (hnum : 0 ≤ num) (hbound : num < 2 ^ 52) (hden : 0 < den) :
    roundHalfEven (binary64.nearest (num / den)) = roundHalfEven (num / den) := by
  have hden' : (1 : ℚ) ≤ den := by exact_mod_cast hden
  have hnum' : (0 : ℚ) ≤ num := Int.cast_nonneg hnum
  have hnonneg : (0 : ℚ) ≤ num / den := div_nonneg hnum' (by linarith)
  have hmax : roundHalfEven (num / den) < 2 ^ 52 := by
    refine lt_of_le_of_lt ?_ hbound
    calc roundHalfEven (num / den) ≤ roundHalfEven num :=
          roundHalfEven_mono (div_le_self hnum' hden')
      _ = num := roundHalfEven_intCast num
  refine (nearestInteger_of_half ?_ fun htie ↦ ?_).roundHalfEven_eq
  · exact abs_sub_nearest_le_half hnonneg (roundHalfEven_nonneg hnonneg) hmax
      (abs_roundHalfEven_sub_le _)
  · exact even_roundHalfEven (abs_sub_div_eq_half hnum hbound hden htie)

end TwiceRounded

section ProportionalSide

variable {side side' given given' other other' n' : ℤ}

theorem proportionalSide_exact (hproduct : 0 ≤ side * given) (hbound : side * given < 2 ^ 52)
    (hother : 0 < other) :
    proportionalSide side given other =
      .ok (max 1 (roundHalfEven ((side * given : ℤ) / other))) := by
  have hlimit : ((side * given : ℤ) / other : ℚ) < doubleLimit := by
    refine div_side_lt (Int.cast_nonneg hproduct) hother ?_
    calc ((side * given : ℤ) : ℚ) < 2 ^ (52 : ℤ) := by exact_mod_cast hbound
      _ < doubleLimit := two_zpow_lt_doubleLimit (by decide)
  unfold proportionalSide
  rw [quotient_of_lt hproduct hother hlimit]
  show Except.ok (max 1 (roundHalfEven (binary64.nearest _))) = _
  rw [roundHalfEven_nearest_div hproduct hbound hother]

theorem proportionalSide_mono (hside : 0 < side) (hgiven : 0 < given) (hother : 0 < other')
    (hle : side ≤ side') (hle' : given ≤ given') (hge : other' ≤ other)
    (h : proportionalSide side given other = .ok n)
    (h' : proportionalSide side' given' other' = .ok n') : n ≤ n' := by
  have hside' : (0 : ℚ) < side := Int.cast_pos.2 hside
  have hgiven' : (0 : ℚ) < given := Int.cast_pos.2 hgiven
  have hother' : (0 : ℚ) < other' := Int.cast_pos.2 hother
  have hlarger : (0 : ℚ) < other := Int.cast_pos.2 (hother.trans_le hge)
  have hlonger : (0 : ℚ) < side' := Int.cast_pos.2 (hside.trans_le hle)
  have hhigher : (0 : ℚ) < given' := Int.cast_pos.2 (hgiven.trans_le hle')
  have hratio : (side * given / other : ℚ) ≤ side' * given' / other' := by
    gcongr
  rw [eq_of_proportionalSide h, eq_of_proportionalSide h']
  -- Both roundings keep the order, and so does the least side of 1.
  exact max_le_max le_rfl
    (roundHalfEven_mono (nearest_mono precision_binary64 (by positivity) hratio))

end ProportionalSide

variable {natural natural' requested target target' : Size}

/-- The side of an open axis is the exact proportion, rounded to the nearest integer. -/
theorem open_axis_rounded_exactly (hnatural : natural.Positive) :
    (∀ height : ℤ, 0 < height → natural.width * height < 2 ^ 52 →
      ∃ width, NearestInteger (natural.width * height / natural.height) width ∧
        resolveSize natural ⟨0, height⟩ = .ok ⟨max 1 width, height⟩) ∧
    ∀ width : ℤ, 0 < width → natural.height * width < 2 ^ 52 →
      ∃ height, NearestInteger (natural.height * width / natural.width) height ∧
        resolveSize natural ⟨width, 0⟩ = .ok ⟨width, max 1 height⟩ := by
  constructor
  · intro height hheight hbound
    refine ⟨_, nearestInteger_roundHalfEven _, ?_⟩
    rw [resolveSize_of_open_width le_rfl hheight]
    refine Except.bind_eq_ok_iff.2 ⟨_, ?_, rfl⟩
    rw [← Int.cast_mul]
    exact proportionalSide_exact (mul_pos hnatural.width_pos hheight).le hbound
      hnatural.height_pos
  · intro width hwidth hbound
    refine ⟨_, nearestInteger_roundHalfEven _, ?_⟩
    rw [resolveSize_of_open_height hwidth le_rfl]
    refine Except.bind_eq_ok_iff.2 ⟨_, ?_, rfl⟩
    rw [← Int.cast_mul]
    exact proportionalSide_exact (mul_pos hnatural.height_pos hwidth).le hbound
      hnatural.width_pos

/-- The exact width lies above 67108862 and a half, by less than the last place of the double. -/
theorem open_axis_rounded_exactly_beside_half :
    (⟨2 ^ 52 - 2 ^ 25 - 1, 2 ^ 26 + 1⟩ : Size).Positive ∧
      resolveSize ⟨2 ^ 52 - 2 ^ 25 - 1, 2 ^ 26 + 1⟩ ⟨0, 1⟩ = .ok ⟨67108863, 1⟩ := by
  have hnatural : (⟨2 ^ 52 - 2 ^ 25 - 1, 2 ^ 26 + 1⟩ : Size).Positive := ⟨by decide, by decide⟩
  refine ⟨hnatural, ?_⟩
  obtain ⟨width, hwidth, hresolve⟩ :=
    (open_axis_rounded_exactly hnatural).1 1 one_pos (by decide)
  rw [hresolve, ← hwidth.roundHalfEven_eq]
  decide +kernel

theorem given_of_resolveSize (h : resolveSize natural requested = .ok target) :
    (0 < requested.width → target.width = requested.width) ∧
      (0 < requested.height → target.height = requested.height) := by
  rcases le_or_gt requested.width 0 with hw | hw <;>
    rcases le_or_gt requested.height 0 with hh | hh
  · exact ⟨fun hwidth ↦ absurd hwidth (not_lt.2 hw), fun hheight ↦ absurd hheight (not_lt.2 hh)⟩
  · rw [resolveSize_of_open_width hw hh] at h
    obtain ⟨width, -, h⟩ := Except.bind_eq_ok_iff.1 h
    cases h
    exact ⟨fun hwidth ↦ absurd hwidth (not_lt.2 hw), fun _ ↦ rfl⟩
  · rw [resolveSize_of_open_height hw hh] at h
    obtain ⟨height, -, h⟩ := Except.bind_eq_ok_iff.1 h
    cases h
    exact ⟨fun _ ↦ rfl, fun hheight ↦ absurd hheight (not_lt.2 hh)⟩
  · rw [resolveSize_of_positive _ ⟨hw, hh⟩] at h
    cases h
    exact ⟨fun _ ↦ rfl, fun _ ↦ rfl⟩

def Size.swap (s : Size) : Size :=
  ⟨s.height, s.width⟩

theorem resolveSize_swap (natural requested : Size) :
    resolveSize natural.swap requested.swap = (resolveSize natural requested).map Size.swap := by
  rcases le_or_gt requested.width 0 with hw | hw <;>
    rcases le_or_gt requested.height 0 with hh | hh
  · rw [resolveSize_of_unasked hw hh, resolveSize_of_unasked hh hw]
    rfl
  · rw [resolveSize_of_open_width hw hh, resolveSize_of_open_height hh hw]
    show proportionalSide natural.width requested.height natural.height >>= _ = _
    cases proportionalSide natural.width requested.height natural.height <;> rfl
  · rw [resolveSize_of_open_height hw hh, resolveSize_of_open_width hh hw]
    show proportionalSide natural.height requested.width natural.width >>= _ = _
    cases proportionalSide natural.height requested.width natural.width <;> rfl
  · rw [resolveSize_of_positive _ ⟨hw, hh⟩, resolveSize_of_positive _ ⟨hh, hw⟩]
    rfl

theorem open_width_mono (hnatural : natural.Positive) (hnatural' : natural'.Positive)
    (hwidth : natural.width ≤ natural'.width) (hheight : natural'.height ≤ natural.height)
    {height height' : ℤ} (hpos : 0 < height) (hle : height ≤ height')
    (h : resolveSize natural ⟨0, height⟩ = .ok target)
    (h' : resolveSize natural' ⟨0, height'⟩ = .ok target') : target.width ≤ target'.width := by
  rw [resolveSize_of_open_width le_rfl hpos] at h
  rw [resolveSize_of_open_width le_rfl (hpos.trans_le hle)] at h'
  obtain ⟨width, hside, h⟩ := Except.bind_eq_ok_iff.1 h
  obtain ⟨width', hside', h'⟩ := Except.bind_eq_ok_iff.1 h'
  cases h
  cases h'
  exact proportionalSide_mono hnatural.width_pos hpos hnatural'.height_pos hwidth hle hheight
    hside hside'

/-- At every magnitude a resolved side is at least 1, a given side is kept, an open side keeps the
order of the sides that it follows from, and the two axes are treated alike. -/
theorem open_axis_ordered (hnatural : natural.Positive) (hnatural' : natural'.Positive) :
    (∀ requested target, resolveSize natural requested = .ok target →
      target.Positive ∧ (0 < requested.width → target.width = requested.width) ∧
        (0 < requested.height → target.height = requested.height)) ∧
    (natural.width ≤ natural'.width → natural'.height ≤ natural.height →
      ∀ height height' target target', 0 < height → height ≤ height' →
        resolveSize natural ⟨0, height⟩ = .ok target →
        resolveSize natural' ⟨0, height'⟩ = .ok target' → target.width ≤ target'.width) ∧
    (natural.height ≤ natural'.height → natural'.width ≤ natural.width →
      ∀ width width' target target', 0 < width → width ≤ width' →
        resolveSize natural ⟨width, 0⟩ = .ok target →
        resolveSize natural' ⟨width', 0⟩ = .ok target' → target.height ≤ target'.height) ∧
    ∀ requested,
      resolveSize natural.swap requested.swap = (resolveSize natural requested).map Size.swap := by
  refine ⟨?_, ?_, ?_, resolveSize_swap natural⟩
  · intro requested target h
    exact ⟨positive_of_resolveSize hnatural h, given_of_resolveSize h⟩
  · intro hwidth hheight height height' target target' hpos hle h h'
    exact open_width_mono hnatural hnatural' hwidth hheight hpos hle h h'
  · intro hheight hwidth width width' target target' hpos hle h h'
    -- The height of an open axis is the width of the exchanged one.
    have hswap := resolveSize_swap natural ⟨width, 0⟩
    have hswap' := resolveSize_swap natural' ⟨width', 0⟩
    rw [h] at hswap
    rw [h'] at hswap'
    exact open_width_mono ⟨hnatural.height_pos, hnatural.width_pos⟩
      ⟨hnatural'.height_pos, hnatural'.width_pos⟩ hheight hwidth hpos hle hswap hswap'

/-- Two widths beyond the integers that a double holds exactly. -/
theorem open_axis_ordered_beyond_doubles :
    (⟨3, 7⟩ : Size).Positive ∧ (⟨4, 5⟩ : Size).Positive ∧
      ∃ target target', resolveSize ⟨3, 7⟩ ⟨0, 10 ^ 20⟩ = .ok target ∧
        resolveSize ⟨4, 5⟩ ⟨0, 10 ^ 20 + 1⟩ = .ok target' ∧ target.width ≤ target'.width := by
  have hnatural : (⟨3, 7⟩ : Size).Positive := ⟨by decide, by decide⟩
  have hnatural' : (⟨4, 5⟩ : Size).Positive := ⟨by decide, by decide⟩
  have hresolves : (resolveSize ⟨3, 7⟩ ⟨0, 10 ^ 20⟩).toBool = true := by decide +kernel
  have hresolves' : (resolveSize ⟨4, 5⟩ ⟨0, 10 ^ 20 + 1⟩).toBool = true := by decide +kernel
  obtain ⟨target, htarget⟩ := Except.eq_ok_of_toBool hresolves
  obtain ⟨target', htarget'⟩ := Except.eq_ok_of_toBool hresolves'
  refine ⟨hnatural, hnatural', target, target', htarget, htarget', ?_⟩
  exact (open_axis_ordered hnatural hnatural').2.1 (by decide) (by decide) (10 ^ 20) (10 ^ 20 + 1)
    target target' (by decide) (by decide) htarget htarget'

end BatchScaler

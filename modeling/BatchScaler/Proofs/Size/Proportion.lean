import BatchScaler.Proofs.Size.Resolution

namespace BatchScaler

open BinaryFormat

section ProportionalSide

variable {side given other n k : ℤ}

theorem eq_of_proportionalSide (h : proportionalSide side given other = .ok n) :
    n = max 1 (roundHalfEven (binary64.nearest (side * given / other))) := by
  obtain ⟨q, hq, h⟩ := Except.bind_eq_ok_iff.1 h
  cases h
  rw [eq_nearest_of_quotient hq, Int.cast_mul]

theorem isValue_of_proportionalSide (h : proportionalSide side given other = .ok n) :
    binary64.IsValue n := by
  rw [eq_of_proportionalSide h]
  rcases max_choice 1 (roundHalfEven (binary64.nearest (side * given / other))) with hmax | hmax
  · rw [hmax]
    exact_mod_cast isValue_natCast (n := 1) (by norm_num)
  · rw [hmax]
    exact isValue_roundHalfEven precision_binary64 (by decide)
      (isValue_nearest precision_binary64 _)

theorem le_maxDouble_of_proportionalSide (hside : 0 < side) (hgiven : 0 < given)
    (hother : 0 < other) (h : proportionalSide side given other = .ok n) : (n : ℚ) ≤ maxDouble := by
  by_cases hlimit : (side * given / other : ℚ) < doubleLimit
  · obtain ⟨m, hm, hle⟩ := proportionalSide_of_lt hside hgiven hother hlimit
    rw [h] at hm
    cases hm
    exact hle
  · rw [proportionalSide_of_le hother (not_lt.1 hlimit)] at h
    cases h

theorem quotient_scaled (hk : 0 < k) (num den : ℤ) :
    quotient (num * k) (den * k) = quotient num den := by
  have hk' : (k : ℚ) ≠ 0 := Int.cast_ne_zero.2 hk.ne'
  unfold quotient
  by_cases hden : den = 0
  · rw [if_pos hden, if_pos (by rw [hden, zero_mul])]
  · rw [if_neg hden, if_neg (mul_ne_zero hden hk.ne'), Int.cast_mul, Int.cast_mul,
      mul_div_mul_right _ _ hk']

theorem proportionalSide_scaled (hk : 0 < k) (side given other : ℤ) :
    proportionalSide (side * k) given (other * k) = proportionalSide side given other := by
  unfold proportionalSide
  rw [mul_right_comm, quotient_scaled hk]

theorem proportionalSide_self (hn : 0 < n) (hvalue : binary64.IsValue n)
    (hmax : (n : ℚ) ≤ maxDouble) (hgiven : 0 < given) : proportionalSide n given given = .ok n := by
  have hnonneg : (0 : ℚ) ≤ n := by exact_mod_cast hn.le
  have hlimit : (n : ℚ) < doubleLimit := hmax.trans_lt maxDouble_lt_doubleLimit
  have hquotient : quotient (n * given) given = .ok (n : ℚ) := by
    have hratio : ((n * given : ℤ) / given : ℚ) = n := by
      rw [Int.cast_mul, mul_div_cancel_right₀ _ (Int.cast_ne_zero.2 hgiven.ne')]
    rw [quotient_eq hgiven.ne', hratio, toDouble_of_lt hnonneg hlimit, nearest_of_isValue hvalue]
  unfold proportionalSide
  rw [hquotient]
  show Except.ok (max 1 (roundHalfEven n)) = _
  rw [roundHalfEven_intCast, max_eq_right (by omega)]

theorem proportionalSide_own (hn : 0 < n) (hbound : n < 2 ^ 53) (hgiven : 0 < given) :
    proportionalSide n given given = .ok n := by
  obtain ⟨m, rfl⟩ := Int.eq_ofNat_of_zero_le hn.le
  have hm : m < 2 ^ 53 := by omega
  exact proportionalSide_self hn (isValue_natCast hm) (natCast_le_maxDouble hm) hgiven

end ProportionalSide

namespace Size

def scaled (s : Size) (k : ℤ) : Size :=
  ⟨s.width * k, s.height * k⟩

def LeavesOne (requested : Size) : Prop :=
  (requested.width ≤ 0 ∧ 0 < requested.height) ∨ (0 < requested.width ∧ requested.height ≤ 0)

/-- Each side of a request is left open, or is the one of the given size. -/
def Keeps (requested size : Size) : Prop :=
  (requested.width ≤ 0 ∨ requested.width = size.width) ∧
    (requested.height ≤ 0 ∨ requested.height = size.height)

end Size

variable {natural requested size : Size} {k : ℤ}

theorem resolveSize_of_unasked (hwidth : requested.width ≤ 0) (hheight : requested.height ≤ 0)
    (natural : Size) : resolveSize natural requested = .ok natural :=
  if_pos ⟨hwidth, hheight⟩

theorem resolveSize_of_open_width (hwidth : requested.width ≤ 0) (hheight : 0 < requested.height)
    (natural : Size) :
    resolveSize natural requested =
      proportionalSide natural.width requested.height natural.height >>=
        fun width ↦ .ok ⟨width, requested.height⟩ := by
  unfold resolveSize
  rw [if_neg fun h ↦ not_le.2 hheight h.2, if_pos hwidth]
  rfl

theorem resolveSize_of_open_height (hwidth : 0 < requested.width) (hheight : requested.height ≤ 0)
    (natural : Size) :
    resolveSize natural requested =
      proportionalSide natural.height requested.width natural.width >>=
        fun height ↦ .ok ⟨requested.width, height⟩ := by
  unfold resolveSize
  rw [if_neg fun h ↦ not_le.2 hwidth h.1, if_neg (not_le.2 hwidth), if_pos hheight]
  rfl

theorem resolveSize_scaled (h : requested.LeavesOne) (hk : 0 < k) (natural : Size) :
    resolveSize (natural.scaled k) requested = resolveSize natural requested := by
  rcases h with ⟨hwidth, hheight⟩ | ⟨hwidth, hheight⟩
  · rw [resolveSize_of_open_width hwidth hheight, resolveSize_of_open_width hwidth hheight]
    exact congrArg (· >>= _) (proportionalSide_scaled hk ..)
  · rw [resolveSize_of_open_height hwidth hheight, resolveSize_of_open_height hwidth hheight]
    exact congrArg (· >>= _) (proportionalSide_scaled hk ..)

/-- A size that a request was resolved to is what the request is resolved to from then on. -/
theorem resolveSize_of_resolved (h : requested.LeavesOne) (hnatural : natural.Positive)
    (hsize : resolveSize natural requested = .ok size) : resolveSize size requested = .ok size := by
  rcases h with ⟨hwidth, hheight⟩ | ⟨hwidth, hheight⟩
  · rw [resolveSize_of_open_width hwidth hheight] at hsize ⊢
    obtain ⟨width, hside, hsize⟩ := Except.bind_eq_ok_iff.1 hsize
    cases hsize
    refine Except.bind_eq_ok_iff.2 ⟨width, ?_, rfl⟩
    exact proportionalSide_self (positive_of_proportionalSide hside)
      (isValue_of_proportionalSide hside) (le_maxDouble_of_proportionalSide hnatural.width_pos
        hheight hnatural.height_pos hside) hheight
  · rw [resolveSize_of_open_height hwidth hheight] at hsize ⊢
    obtain ⟨height, hside, hsize⟩ := Except.bind_eq_ok_iff.1 hsize
    cases hsize
    refine Except.bind_eq_ok_iff.2 ⟨height, ?_, rfl⟩
    exact proportionalSide_self (positive_of_proportionalSide hside)
      (isValue_of_proportionalSide hside) (le_maxDouble_of_proportionalSide hnatural.height_pos
        hwidth hnatural.width_pos hside) hwidth

/-- A size is resolved to itself by the requests that keep it, also where a side follows from the
aspect ratio. -/
theorem resolveSize_eq_self_iff (hsize : size.Positive) (hwidth : size.width < 2 ^ 53)
    (hheight : size.height < 2 ^ 53) :
    resolveSize size requested = .ok size ↔ requested.Keeps size := by
  unfold Size.Keeps
  rcases le_or_gt requested.width 0 with hw | hw
  · rcases le_or_gt requested.height 0 with hh | hh
    · rw [resolveSize_of_unasked hw hh]
      exact iff_of_true rfl ⟨.inl hw, .inl hh⟩
    · rw [resolveSize_of_open_width hw hh, or_iff_right (not_le.2 hh)]
      constructor
      · intro h
        obtain ⟨width, -, h⟩ := Except.bind_eq_ok_iff.1 h
        cases h
        exact ⟨.inl hw, rfl⟩
      · rintro ⟨-, hsame⟩
        rw [hsame]
        exact Except.bind_eq_ok_iff.2
          ⟨_, proportionalSide_own hsize.width_pos hwidth hsize.height_pos, rfl⟩
  · rcases le_or_gt requested.height 0 with hh | hh
    · rw [resolveSize_of_open_height hw hh, or_iff_right (not_le.2 hw)]
      constructor
      · intro h
        obtain ⟨height, -, h⟩ := Except.bind_eq_ok_iff.1 h
        cases h
        exact ⟨rfl, .inl hh⟩
      · rintro ⟨hsame, -⟩
        rw [hsame]
        exact Except.bind_eq_ok_iff.2
          ⟨_, proportionalSide_own hsize.height_pos hheight hsize.width_pos, rfl⟩
    · rw [resolveSize_of_positive _ ⟨hw, hh⟩, or_iff_right (not_le.2 hw),
        or_iff_right (not_le.2 hh)]
      constructor
      · intro h
        cases h
        exact ⟨rfl, rfl⟩
      · rintro ⟨hsameWidth, hsameHeight⟩
        exact congrArg Except.ok (congrArg₂ Size.mk hsameWidth hsameHeight)

/-- A multiple of a size is taken back to it by the requests that keep it, unless they ask for
nothing. -/
theorem resolveSize_scaled_of_keeps (hkeeps : requested.Keeps size)
    (hasked : 0 < requested.width ∨ 0 < requested.height) (hk : 0 < k) (hsize : size.Positive)
    (hwidth : size.width < 2 ^ 53) (hheight : size.height < 2 ^ 53) :
    resolveSize (size.scaled k) requested = .ok size := by
  have hself := (resolveSize_eq_self_iff hsize hwidth hheight).2 hkeeps
  rcases le_or_gt requested.width 0 with hw | hw
  · have hh := hasked.resolve_left (not_lt.2 hw)
    rwa [resolveSize_scaled (.inl ⟨hw, hh⟩) hk]
  · rcases le_or_gt requested.height 0 with hh | hh
    · rwa [resolveSize_scaled (.inr ⟨hw, hh⟩) hk]
    · rwa [resolveSize_of_positive _ ⟨hw, hh⟩] at hself ⊢

/-- What a request comes to when it is made several times in turn, each time of a size that is
`scale` times what the time before has come to. -/
def resizedSize (scale : ℤ) (requested : Size) : ℕ → Size → Except Fault Size
  | 0, size => .ok size
  | n + 1, size => resolveSize (size.scaled scale) requested >>= resizedSize scale requested n

variable {scale : ℤ} {n : ℕ}

theorem resizedSize_of_unasked (hwidth : requested.width ≤ 0) (hheight : requested.height ≤ 0)
    (n : ℕ) (size : Size) : resizedSize scale requested n size = .ok (size.scaled (scale ^ n)) := by
  induction n generalizing size with
  | zero => simp [resizedSize, Size.scaled]
  | succ n ih =>
    rw [resizedSize, resolveSize_of_unasked hwidth hheight]
    refine (ih (size.scaled scale)).trans ?_
    simp only [Size.scaled, mul_assoc, pow_succ']

theorem resizedSize_of_positive (h : requested.Positive) (hn : 0 < n) (size : Size) :
    resizedSize scale requested n size = .ok requested := by
  induction n generalizing size with
  | zero => exact absurd hn (lt_irrefl 0)
  | succ n ih =>
    rw [resizedSize, resolveSize_of_positive _ h]
    rcases Nat.eq_zero_or_pos n with rfl | hn
    · rfl
    · exact ih hn requested

/-- Asked for one side, the first time comes to the size that the aspect ratio gives, and every later
time keeps it. -/
theorem resizedSize_of_leavesOne (h : requested.LeavesOne) (hscale : 0 < scale) (hn : 0 < n)
    (hsize : size.Positive) :
    resizedSize scale requested n size = resolveSize size requested := by
  induction n generalizing size with
  | zero => exact absurd hn (lt_irrefl 0)
  | succ n ih =>
    rw [resizedSize, resolveSize_scaled h hscale]
    cases hresolved : resolveSize size requested with
    | error fault => rfl
    | ok target =>
      rcases Nat.eq_zero_or_pos n with rfl | hn
      · rfl
      · refine (ih hn (positive_of_resolveSize hsize hresolved)).trans ?_
        exact resolveSize_of_resolved h hsize hresolved

end BatchScaler

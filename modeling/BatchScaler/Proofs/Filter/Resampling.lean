import BatchScaler.Proofs.Filter.Surroundings

namespace BatchScaler

/-- The source position that a resampled axis of length `n` shows at a position, if its pixels are
the nearest ones. The axis was padded, resized to `length` pixels and cut from `start` on. -/
def resampledIndex (mode : EdgeMode) (n : ℕ) (s : Scale) (length target start : ℤ) (i : ℕ) : ℕ :=
  let resized := s.nearestIndex (fitIndex length.toNat target start i)
  mode.index n ((min resized (n + 2 * kernelMargin - 1) : ℕ) - kernelMargin)

def Aim.TooFar (aim : Aim) : Prop :=
  maxFactor < aim.horizontal.factor ∨ maxFactor < aim.vertical.factor

theorem Scale.engineSize_eq {horizontal vertical : Scale} {size : Size} {width height : ℤ}
    (hh : horizontal.factor ≤ maxFactor) (hv : vertical.factor ≤ maxFactor)
    (hwidth : horizontal.resizedSide size.width = .ok width)
    (hheight : vertical.resizedSide size.height = .ok height) :
    engineSize horizontal vertical size = .ok ⟨width, height⟩ := by
  refine (if_neg (not_or.2 ⟨not_lt.2 hh, not_lt.2 hv⟩)).trans ?_
  exact Except.bind_eq_ok_iff.2 ⟨width, hwidth, Except.bind_eq_ok_iff.2 ⟨height, hheight, rfl⟩⟩

/-- The engine resizes a size that is not smaller than the one an aim was meant for, unless the aim
is too far. -/
theorem Aim.exists_engineSize {natural requested : Size} {aim : Aim}
    (haim : Aim.of natural requested = .ok aim) (hnatural : natural.Positive)
    (hnear : ¬aim.TooFar) {n m : ℕ} (hwidth : natural.width ≤ n) (hn : n < 2 ^ 52)
    (hheight : natural.height ≤ m) (hm : m < 2 ^ 52) :
    ∃ size, Scale.engineSize aim.horizontal aim.vertical ⟨n, m⟩ = .ok size ∧ size.Positive := by
  obtain ⟨htarget, hh, hv⟩ := Aim.of_eq_ok_iff.1 haim
  obtain ⟨hhmax, hvmax⟩ := not_or.1 hnear
  have hpositive := positive_of_resolveSize hnatural htarget
  obtain ⟨width, hwidth, hwidthPos⟩ := exists_resizedSide hh hpositive.width_pos
    hnatural.width_pos hwidth hn (not_lt.1 hhmax)
  obtain ⟨height, hheight, hheightPos⟩ := exists_resizedSide hv hpositive.height_pos
    hnatural.height_pos hheight hm (not_lt.1 hvmax)
  exact ⟨⟨width, height⟩, Scale.engineSize_eq (not_lt.1 hhmax) (not_lt.1 hvmax) hwidth hheight,
    hwidthPos, hheightPos⟩

theorem Aim.engineSize_of_tooFar {aim : Aim} (h : aim.TooFar) (size : Size) :
    Scale.engineSize aim.horizontal aim.vertical size = .error .engine :=
  if_pos h

theorem Aim.not_tooFar_of_same {natural requested : Size} {aim : Aim}
    (haim : Aim.of natural requested = .ok aim) (hnatural : natural.Positive)
    (h : aim.target = natural) : ¬aim.TooFar := by
  obtain ⟨-, hh, hv⟩ := Aim.of_eq_ok_iff.1 haim
  rw [h, between_self hnatural.width_pos] at hh
  rw [h, between_self hnatural.height_pos] at hv
  have hone : ¬maxFactor < 1 := by
    norm_num [maxFactor]
  unfold Aim.TooFar
  rw [← Except.ok.inj hh, ← Except.ok.inj hv]
  exact fun hfar ↦ hfar.elim hone hone

namespace Raster

variable {α : Type} {e : Interpolator α} {r : Raster α}

theorem resampleTo_eq (hr : r.size.Positive) (aim : Aim) (htarget : aim.target.Positive)
    {size : Size} (hsize : size.Positive)
    (hengine : Scale.engineSize aim.horizontal aim.vertical
      ⟨r.size.width + 2 * kernelMargin, r.size.height + 2 * kernelMargin⟩ = .ok size)
    {left top : ℤ} (hleft : aim.horizontal.resizedMargin kernelMargin = .ok left)
    (htop : aim.vertical.resizedMargin kernelMargin = .ok top) (kernel : Kernel)
    (xMode yMode : EdgeMode) :
    ∃ r', r.resampleTo e kernel aim xMode yMode = .ok r' ∧ r'.size = aim.target ∧
      (kernel = .nearest → r.Shows r'
        (resampledIndex xMode r.width aim.horizontal size.width aim.target.width left)
        (resampledIndex yMode r.height aim.vertical size.height aim.target.height top)) := by
  have hmargin : (0 : ℤ) ≤ kernelMargin := by decide
  obtain ⟨padded, hpad, hpaddedSize, hpadded⟩ :=
    Step.moves_padSteps e hr hmargin hmargin xMode yMode
  have hpaddedPositive : padded.size.Positive := by
    have hwidth := hr.width_pos
    have hheight := hr.height_pos
    rw [hpaddedSize]
    exact ⟨show 0 < r.size.width + 2 * (kernelMargin : ℤ) by omega,
      show 0 < r.size.height + 2 * (kernelMargin : ℤ) by omega⟩
  obtain ⟨resized, hresize, hresizedSize, hresized⟩ :=
    Step.run_resize (e := e) hpaddedPositive (hpaddedSize ▸ hengine) hsize kernel
  obtain ⟨r', hfit, hr', hfitted⟩ :=
    Step.moves_fitSteps e (hresizedSize ▸ hsize) htarget left top
  refine ⟨r', ?_, hr', ?_⟩
  · have hsteps : kernelSteps kernel r.size aim xMode yMode Scale.engineSize =
        .ok (padSteps r.size kernelMargin kernelMargin xMode yMode ++
          [.resize aim.horizontal aim.vertical kernel] ++ fitSteps size aim.target left top) :=
      Except.bind_eq_ok_iff.2 ⟨size, hengine, Except.bind_eq_ok_iff.2 ⟨left, hleft,
        Except.bind_eq_ok_iff.2 ⟨top, htop, rfl⟩⟩⟩
    refine Except.bind_eq_ok_iff.2 ⟨_, hsteps, ?_⟩
    rw [Step.runAll_append, Step.runAll_append]
    refine Except.bind_eq_ok_iff.2 ⟨resized, Except.bind_eq_ok_iff.2 ⟨padded, hpad, ?_⟩, ?_⟩
    · rw [Step.runAll_singleton, hresize]
    · rw [← hresizedSize, hfit]
  · rintro rfl
    obtain ⟨hwidth, hheight⟩ : padded.width = r.width + 2 * kernelMargin ∧
        padded.height = r.height + 2 * kernelMargin := sides_of_size hpaddedSize
    have hwidth' : resized.width = size.width.toNat :=
      congrArg (fun size ↦ size.width.toNat) hresizedSize
    have hheight' : resized.height = size.height.toNat :=
      congrArg (fun size ↦ size.height.toNat) hresizedSize
    have hshows := hpadded.trans ((hresized rfl).trans hfitted)
    rwa [hwidth, hheight, hwidth', hheight'] at hshows

theorem exists_resampleTo {requested : Size} {aim : Aim}
    (haim : Aim.of r.size requested = .ok aim) (hr : r.size.Positive) (hnear : ¬aim.TooFar)
    (hwidth : r.width < 2 ^ 51) (hheight : r.height < 2 ^ 51) (kernel : Kernel)
    (xMode yMode : EdgeMode) : ∃ r', r.resampleTo e kernel aim xMode yMode = .ok r' := by
  obtain ⟨htarget, hh, hv⟩ := Aim.of_eq_ok_iff.1 haim
  obtain ⟨hhmax, hvmax⟩ := not_or.1 hnear
  have hpositive := positive_of_resolveSize hr htarget
  have hhnonneg := Scale.factor_nonneg_of_between hpositive.width_pos.le hr.width_pos.le hh
  have hvnonneg := Scale.factor_nonneg_of_between hpositive.height_pos.le hr.height_pos.le hv
  have hpaddedWidth : r.size.width ≤ (r.width + 2 * kernelMargin : ℕ) :=
    Int.ofNat_le.2 (Nat.le_add_right _ _)
  have hpaddedHeight : r.size.height ≤ (r.height + 2 * kernelMargin : ℕ) :=
    Int.ofNat_le.2 (Nat.le_add_right _ _)
  obtain ⟨size, hengine, hsize⟩ := aim.exists_engineSize haim hr hnear hpaddedWidth
    (by unfold kernelMargin; omega) hpaddedHeight (by unfold kernelMargin; omega)
  obtain ⟨r', hrun, -⟩ := resampleTo_eq (e := e) hr aim hpositive hsize hengine
    (Scale.resizedMargin_eq (by decide) hhnonneg (not_lt.1 hhmax))
    (Scale.resizedMargin_eq (by decide) hvnonneg (not_lt.1 hvmax)) kernel xMode yMode
  exact ⟨r', hrun⟩

theorem resampleTo_of_tooFar {aim : Aim} (h : aim.TooFar) (kernel : Kernel)
    (xMode yMode : EdgeMode) : r.resampleTo e kernel aim xMode yMode = .error .engine := by
  unfold resampleTo kernelSteps
  dsimp only
  rw [aim.engineSize_of_tooFar h]
  rfl

theorem naturalSize_positive (hr : r.size.Positive) (s : Scaler) : (r.naturalSize s).Positive :=
  ⟨mul_pos hr.width_pos (Int.natCast_pos.2 s.factor_pos),
    mul_pos hr.height_pos (Int.natCast_pos.2 s.factor_pos)⟩

variable [DecidableEq α] [Inhabited α]

theorem exists_enlargePadded (hr : r.size.Positive) (s : Scaler) (xMode yMode : EdgeMode) :
    ∃ r', r.enlargePadded s xMode yMode = .ok r' :=
  ⟨_, enlargePadded_eq hr s xMode yMode⟩

/-- Pixel art is enlarged to its natural size, and from there on resized as any other raster. -/
theorem exists_enlargeTo {s : Scaler} {requested : Size} {aim : Aim}
    (haim : Aim.of (r.naturalSize s) requested = .ok aim) (hr : r.size.Positive)
    (hnear : ¬aim.TooFar) (hwidth : r.width < 2 ^ 50) (hheight : r.height < 2 ^ 50)
    (xMode yMode : EdgeMode) : ∃ r', r.enlargeTo e s aim.target xMode yMode = .ok r' := by
  obtain ⟨htarget, hh, hv⟩ := Aim.of_eq_ok_iff.1 haim
  obtain ⟨enlarged, henlarged⟩ := exists_enlargePadded hr s xMode yMode
  have hnatural := naturalSize_positive hr s
  have hsize := size_enlargePadded henlarged
  unfold enlargeTo
  rw [henlarged]
  by_cases hsame : aim.target = r.naturalSize s
  · exact ⟨enlarged, if_pos hsame⟩
  · have hfactor : s.factor ≤ 3 := by
      cases s <;> decide
    have hwidth' : (enlarged.width : ℤ) = r.width * s.factor := congrArg Size.width hsize
    have hheight' : (enlarged.height : ℤ) = r.height * s.factor := congrArg Size.height hsize
    have hbound {side enlargedSide : ℕ} (h : (enlargedSide : ℤ) = side * s.factor)
        (hside : side < 2 ^ 50) : enlargedSide < 2 ^ 52 := by
      have hthrice : enlargedSide ≤ side * 3 := by
        rw [← Nat.cast_mul, Nat.cast_inj] at h
        exact h ▸ Nat.mul_le_mul_left _ hfactor
      omega
    obtain ⟨size, hengine, hsizePos⟩ := aim.exists_engineSize haim hnatural hnear hwidth'.ge
      (hbound hwidth' hwidth) hheight'.ge (hbound hheight' hheight)
    have henlargedPos : enlarged.size.Positive := hsize ▸ hnatural
    obtain ⟨resized, hresize, hresized, -⟩ :=
      Step.run_resize henlargedPos hengine hsizePos .nearest
    obtain ⟨r', hfit, -⟩ := Step.moves_fitSteps .nearestPixel (hresized ▸ hsizePos)
      (positive_of_resolveSize hnatural htarget) 0 0
    refine ⟨r', (if_neg hsame).trans ?_⟩
    exact Except.bind_eq_ok_iff.2 ⟨_, hh, Except.bind_eq_ok_iff.2 ⟨_, hv,
      Except.bind_eq_ok_iff.2 ⟨resized, hresize, hfit⟩⟩⟩

theorem enlargeTo_of_tooFar {s : Scaler} {requested : Size} {aim : Aim}
    (haim : Aim.of (r.naturalSize s) requested = .ok aim) (hr : r.size.Positive)
    (hfar : aim.TooFar) (xMode yMode : EdgeMode) :
    r.enlargeTo e s aim.target xMode yMode = .error .engine := by
  obtain ⟨htarget, hh, hv⟩ := Aim.of_eq_ok_iff.1 haim
  obtain ⟨enlarged, henlarged⟩ := exists_enlargePadded hr s xMode yMode
  have hnatural := naturalSize_positive hr s
  have hpos : enlarged.size.Positive := size_enlargePadded henlarged ▸ hnatural
  have hresize : (Step.resize aim.horizontal aim.vertical .nearest).run e enlarged =
      .error .engine := by
    refine (dif_pos ⟨width_pos hpos, height_pos hpos⟩).trans ?_
    rw [aim.engineSize_of_tooFar hfar]
    rfl
  unfold enlargeTo
  rw [henlarged]
  refine (if_neg fun hsame ↦ aim.not_tooFar_of_same haim hnatural hsame hfar).trans ?_
  rw [hh]
  show (Scale.between aim.target.height _ >>= _) = _
  rw [hv]
  show ((Step.resize aim.horizontal aim.vertical .nearest).run e enlarged >>= _) = _
  rw [hresize]
  rfl

theorem enlargeTo_of_overflow {s : Scaler} {requested : Size} (hr : r.size.Positive)
    (h : Aim.of (r.naturalSize s) requested = .error .overflow) (xMode yMode : EdgeMode) :
    (resolveSize (r.naturalSize s) requested >>= fun target ↦
      r.enlargeTo e s target xMode yMode) = .error .overflow := by
  obtain ⟨enlarged, henlarged⟩ := exists_enlargePadded hr s xMode yMode
  have hnatural := naturalSize_positive hr s
  refine Except.bind_eq_error_iff.2 ?_
  rcases Except.bind_eq_error_iff.1 h with h | ⟨target, htarget, h⟩
  · exact .inl h
  · refine .inr ⟨target, htarget, Except.bind_eq_error_iff.2 (.inr ⟨enlarged, henlarged, ?_⟩)⟩
    have hdifferent : target ≠ r.naturalSize s := by
      rintro rfl
      rw [between_self hnatural.width_pos] at h
      change (Scale.between (r.naturalSize s).height (r.naturalSize s).height >>= _) = _ at h
      rw [between_self hnatural.height_pos] at h
      cases h
    refine (if_neg hdifferent).trans (Except.bind_eq_error_iff.2 ?_)
    rcases Except.bind_eq_error_iff.1 h with h | ⟨horizontal, hhorizontal, h⟩
    · exact .inl h
    · refine .inr ⟨horizontal, hhorizontal, Except.bind_eq_error_iff.2 ?_⟩
      rcases Except.bind_eq_error_iff.1 h with h | ⟨vertical, hvertical, h⟩
      · exact .inl h
      · cases h

end Raster

end BatchScaler

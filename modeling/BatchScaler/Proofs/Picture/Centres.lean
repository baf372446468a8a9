import BatchScaler.Proofs.Picture.Enlargement
import BatchScaler.Proofs.Size.Proportion

namespace BatchScaler

theorem nearestIndex_fitIndex_per {k n length i : ℕ} (hk : 0 < k) (hlength : n ≤ length)
    (hi : i < n) :
    min ((Scale.per k n).nearestIndex (fitIndex length n 0 i)) (k * n - 1) = k * i + k / 2 := by
  have hfit : fitIndex length n (0 : ℕ) i = 0 + i := fitIndex_of_le (by omega) hi
  have hrow : k * i + k ≤ k * n := by
    rw [← Nat.mul_succ]
    exact Nat.mul_le_mul_left k hi
  rw [Nat.cast_zero, Nat.zero_add] at hfit
  rw [hfit, nearestIndex_per (Nat.zero_lt_of_lt hi) hk]
  omega

namespace Raster

variable {α : Type} {e : Interpolator α}

theorem exists_reduced {large : Raster α} {k width height : ℕ} (hk : 0 < k) (hw : 0 < width)
    (hh : 0 < height) (hwidth : k * width < 2 ^ 49) (hheight : k * height < 2 ^ 49)
    (hlarge : large.size = ⟨(k * width : ℕ), (k * height : ℕ)⟩) :
    ∃ r', ((Step.resize (.per k width) (.per k height) .nearest).run e large >>= fun resized ↦
        resized.fitExact ⟨width, height⟩ 0 0) = .ok r' ∧
      r'.size = ⟨width, height⟩ ∧ large.Shows r' (k * · + k / 2) (k * · + k / 2) := by
  have hlong {n : ℕ} (hn : 0 < n) (hbound : k * n < 2 ^ 49) :
      ∃ length : ℕ, (Scale.per k n).resizedSide ((k * n : ℕ) : ℤ) = .ok (length : ℤ) ∧
        n ≤ length := by
    have hn' : n ≤ k * n := Nat.le_mul_of_pos_left n hk
    exact Scale.exists_resizedSide_of_source hn (Nat.mul_pos hk hn) (by omega) (by omega)
      (between_per hn hk) (factor_per_le hk n)
  obtain ⟨resizedWidth, hresizedWidth, hwidthLe⟩ := hlong hw hwidth
  obtain ⟨resizedHeight, hresizedHeight, hheightLe⟩ := hlong hh hheight
  have hengine : Scale.engineSize (.per k width) (.per k height) large.size =
      .ok ⟨resizedWidth, resizedHeight⟩ := by
    rw [hlarge]
    exact Scale.engineSize_eq (factor_per_le hk _) (factor_per_le hk _) hresizedWidth
      hresizedHeight
  have hpositive : large.size.Positive := by
    rw [hlarge]
    exact ⟨Int.natCast_pos.2 (Nat.mul_pos hk hw), Int.natCast_pos.2 (Nat.mul_pos hk hh)⟩
  have hresizedPositive : Size.Positive ⟨resizedWidth, resizedHeight⟩ :=
    ⟨Int.natCast_pos.2 (hw.trans_le hwidthLe), Int.natCast_pos.2 (hh.trans_le hheightLe)⟩
  obtain ⟨resized, hresize, hsize, hshows⟩ :=
    Step.run_resize (e := e) hpositive hengine hresizedPositive .nearest
  have htarget : Size.Positive ⟨width, height⟩ :=
    ⟨Int.natCast_pos.2 hw, Int.natCast_pos.2 hh⟩
  obtain ⟨r', hfit, hr', hfitted⟩ :=
    Step.moves_fitSteps .nearestPixel (hsize ▸ hresizedPositive) htarget 0 0
  obtain ⟨hresizedWidth', hresizedHeight'⟩ := sides_of_size hsize
  obtain ⟨hlargeWidth, hlargeHeight⟩ := sides_of_size hlarge
  obtain ⟨hwidth', hheight'⟩ := sides_of_size hr'
  refine ⟨r', Except.bind_eq_ok_iff.2 ⟨resized, hresize, hfit⟩, hr', ?_⟩
  refine ((hshows rfl).trans hfitted).congr (fun i hi ↦ ?_) fun j hj ↦ ?_
  · rw [Function.comp_apply, hlargeWidth, hresizedWidth']
    exact nearestIndex_fitIndex_per hk hwidthLe (hwidth' ▸ hi)
  · rw [Function.comp_apply, hlargeHeight, hresizedHeight']
    exact nearestIndex_fitIndex_per hk hheightLe (hheight' ▸ hj)

variable {r : Raster α}

theorem naturalSize_eq (s : Scaler) (r : Raster α) :
    r.naturalSize s = ⟨(s.factor * r.width : ℕ), (s.factor * r.height : ℕ)⟩ := by
  unfold naturalSize
  rw [mul_comm s.factor r.width, mul_comm s.factor r.height, Nat.cast_mul, Nat.cast_mul]

theorem size_ne_naturalSize (s : Scaler) (hr : r.size.Positive) : r.size ≠ r.naturalSize s := by
  intro h
  have hwidth : r.width = r.width * s.factor := Int.ofNat_inj.1 (congrArg Size.width h)
  have hfactor : 1 < s.factor := by
    cases s <;> decide
  exact absurd hwidth (lt_mul_of_one_lt_right (width_pos hr) hfactor).ne

variable [DecidableEq α]

def centres (s : Scaler) (xMode yMode : EdgeMode) (r : Raster α) : Raster α :=
  ofFn r.width r.height fun x y ↦
    s.subPixel (r.surroundings xMode yMode x y) (s.factor / 2) (s.factor / 2)

theorem centres_scale3x (xMode yMode : EdgeMode) (r : Raster α) :
    r.centres .scale3x xMode yMode = r :=
  ofFn_get r

variable (s : Scaler) (xMode yMode : EdgeMode)

theorem get_enlargement_centre {x y : ℕ} (hx : x < r.width) (hy : y < r.height)
    (hx' : s.factor * x + s.factor / 2 < r.width * s.factor)
    (hy' : s.factor * y + s.factor / 2 < r.height * s.factor) :
    (r.enlargement s xMode yMode).get ⟨s.factor * x + s.factor / 2, hx'⟩
        ⟨s.factor * y + s.factor / 2, hy'⟩ =
      (r.centres s xMode yMode).get ⟨x, hx⟩ ⟨y, hy⟩ := by
  have hhalf : s.factor / 2 < s.factor := Nat.div_lt_self s.factor_pos one_lt_two
  have hdiv (i : ℕ) : (s.factor * i + s.factor / 2) / s.factor = i := by
    rw [Nat.mul_add_div s.factor_pos, Nat.div_eq_of_lt hhalf, Nat.add_zero]
  have hmod (i : ℕ) : (s.factor * i + s.factor / 2) % s.factor = s.factor / 2 := by
    rw [Nat.mul_add_mod, Nat.mod_eq_of_lt hhalf]
  refine (r.get_enlargement s xMode yMode ⟨_, hx'⟩ ⟨_, hy'⟩).trans ?_
  refine Eq.trans ?_ (get_ofFn r.width r.height _ ⟨x, hx⟩ ⟨y, hy⟩).symm
  simp only [Fin.divNat, Fin.modNat, hdiv, hmod]

theorem enlargeTo_own [Inhabited α] (hr : r.size.Positive) (hwidth : s.factor * r.width < 2 ^ 49)
    (hheight : s.factor * r.height < 2 ^ 49) :
    r.enlargeTo e s r.size xMode yMode = .ok (r.centres s xMode yMode) := by
  have hw := width_pos hr
  have hh := height_pos hr
  have hsize : (r.enlargement s xMode yMode).size = r.naturalSize s :=
    size_enlargePadded (enlargePadded_eq hr s xMode yMode)
  obtain ⟨r', hrun, hr', hshows⟩ := exists_reduced (e := e) s.factor_pos hw hh hwidth hheight
    (hsize.trans (r.naturalSize_eq s))
  have hcentres : r' = r.centres s xMode yMode := by
    obtain ⟨hwidth', hheight'⟩ := sides_of_size hr'
    refine ext_get hwidth' hheight' fun x y ↦ ?_
    rw [hshows.get_eq]
    exact get_enlargement_centre s xMode yMode (hwidth' ▸ x.isLt) (hheight' ▸ y.isLt) _ _
  have hscale {n : ℕ} (hn : 0 < n) :
      Scale.between n ((s.factor * n : ℕ) : ℤ) = .ok (.per s.factor n) :=
    between_per hn s.factor_pos
  unfold enlargeTo
  rw [enlargePadded_eq hr]
  refine (if_neg (size_ne_naturalSize s hr)).trans ?_
  rw [r.naturalSize_eq s]
  refine Except.bind_eq_ok_iff.2 ⟨_, hscale hw, Except.bind_eq_ok_iff.2 ⟨_, hscale hh, ?_⟩⟩
  exact hrun.trans (congrArg Except.ok hcentres)

end Raster

namespace NamedFilter

variable {σ : Type} {engine : Engine} {f : NamedFilter Method} {requested : Size} {p : Picture}

/-- Tripled and reduced again, a picture is what it was. -/
theorem triples_and_returns (hf : f.method = .pixelArt .scale3x) (hp : p.size.Positive)
    (hwidth : p.size.width ≤ FileService.maxEngineInteger)
    (hheight : p.size.height ≤ FileService.maxEngineInteger) (hkeeps : requested.Keeps p.size)
    (hasked : 0 < requested.width ∨ 0 < requested.height) (xMode yMode : EdgeMode) (w : σ) :
    ((f.apply engine requested xMode yMode p).run w).result =
      .ok ⟨p.bands, p.raster, none⟩ := by
  have hbound : FileService.maxEngineInteger < 2 ^ 47 := by decide
  have hresolve : resolveSize (p.raster.naturalSize .scale3x) requested = .ok p.raster.size :=
    resolveSize_scaled_of_keeps hkeeps hasked (k := 3) (by decide) hp (by omega) (by omega)
  have hside {n : ℕ} (hn : (n : ℤ) ≤ FileService.maxEngineInteger) :
      Scaler.scale3x.factor * n < 2 ^ 49 := by
    rw [show Scaler.scale3x.factor = 3 from rfl]
    omega
  have hown := Raster.enlargeTo_own (e := engine p.bands) .scale3x xMode yMode hp (hside hwidth)
    (hside hheight)
  rw [result_apply]
  unfold applied
  rw [hf]
  refine Except.bind_eq_ok_iff.2 ⟨_, hresolve, Except.bind_eq_ok_iff.2 ⟨_, hown, ?_⟩⟩
  rw [Raster.centres_scale3x]
  rfl

theorem triples_and_returns_open_height :
    let p := Picture.ofSamples 2 1 3 UInt8.ofNat
    ((apply nearestEngine ⟨"Scale3x", .pixelArt .scale3x⟩ ⟨2, 0⟩ .mirror .wrap p).run ()).result =
      .ok ⟨3, p.raster, none⟩ := by
  intro p
  have hkeeps : Size.Keeps ⟨2, 0⟩ p.size := ⟨.inr rfl, .inl le_rfl⟩
  exact triples_and_returns rfl ⟨by decide, by decide⟩ (by decide) (by decide) hkeeps
    (.inl (by decide)) .mirror .wrap ()

end NamedFilter

end BatchScaler

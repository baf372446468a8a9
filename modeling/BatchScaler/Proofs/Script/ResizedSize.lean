import BatchScaler.Proofs.Picture.Refusals
import BatchScaler.Proofs.Script.Colours
import BatchScaler.Proofs.Size.Proportion

namespace BatchScaler

open BatchScaler.Action Session

theorem Method.scale_pos (m : Method) : (0 : ℤ) < m.scale := by
  cases m with
  | kernel kernel => exact one_pos
  | pixelArt scaler => exact Int.natCast_pos.2 scaler.factor_pos

namespace FileService

variable {engine : Engine} {profile : EngineProfile} {program : String} {f : NamedFilter Method}
  {requested : Size} {n : ℕ} {p p' : Picture} {w w' : Disk}

theorem size_of_applyFilter (hp : p.size.Positive) {xMode yMode : EdgeMode}
    (h : ((service engine profile).applyFilter p f requested xMode yMode).Yields w p' w') :
    resolveSize (p.size.scaled f.method.scale) requested = .ok p'.size ∧ p'.bands = p.bands ∧
      p'.size.Positive := by
  obtain ⟨hresult, -⟩ := h
  obtain ⟨hsize, hbands⟩ := NamedFilter.size_of_apply hp hresult
  exact ⟨hsize, hbands, positive_of_resolveSize (NamedFilter.naturalSize_positive hp f) hsize⟩

theorem size_of_applied (hp : p.size.Positive)
    (h : (service engine profile).Applied f requested n p w p' w') :
    resizedSize f.method.scale requested n p.size = .ok p'.size := by
  induction h with
  | zero => rfl
  | @succ n p p₁ p' w w₁ w' hfirst hrest ih =>
    obtain ⟨hsize, -, hpositive⟩ := size_of_applyFilter hp hfirst
    exact Except.bind_eq_ok_iff.2 ⟨p₁.size, hsize, ih hpositive⟩

/-- The size after a repeated resize. Where one side is asked for, neither the filter nor the number
of its applications matters, and no size drifts: this holds of sizes beyond all pictures too. -/
theorem repeated_resize_size (engine : Engine) (profile : EngineProfile) (program : String) :
    (∀ f requested n p p' w w', p.size.Positive → 0 < n →
      ((session engine profile program).applyTimes f requested n p).Yields w p' w' →
      (requested.width ≤ 0 → requested.height ≤ 0 →
        p'.size = p.size.scaled ((f.method.scale : ℤ) ^ n)) ∧
      (requested.Positive → p'.size = requested) ∧
      (requested.LeavesOne → resolveSize p.size requested = .ok p'.size ∧
        ∀ g m q v v', 0 < m →
          ((session engine profile program).applyTimes g requested m p).Yields v q v' →
            q.size = p'.size)) ∧
    (∀ (size requested : Size) (scale : ℤ) (n : ℕ), size.Positive → 0 < scale → 0 < n →
      (requested.Positive → resizedSize scale requested n size = .ok requested) ∧
      (requested.LeavesOne → ¬size.Overflows requested → ∃ target,
        resolveSize size requested = .ok target ∧
          resizedSize scale requested n size = .ok target)) := by
  constructor
  · intro f requested n p p' w w' hp hn h
    have hsize := size_of_applied hp (applied_of_yields h)
    refine ⟨fun hwidth hheight ↦ ?_, fun hrequested ↦ ?_, fun hrequested ↦ ?_⟩
    · rw [resizedSize_of_unasked hwidth hheight] at hsize
      exact (Except.ok.inj hsize).symm
    · rw [resizedSize_of_positive hrequested hn] at hsize
      exact (Except.ok.inj hsize).symm
    · rw [resizedSize_of_leavesOne hrequested f.method.scale_pos hn hp] at hsize
      refine ⟨hsize, fun g m q v v' hm hq ↦ ?_⟩
      have hsame := size_of_applied hp (applied_of_yields hq)
      rw [resizedSize_of_leavesOne hrequested g.method.scale_pos hm hp, hsize] at hsame
      exact (Except.ok.inj hsame).symm
  · intro size requested scale n hsize hscale hn
    refine ⟨fun hrequested ↦ resizedSize_of_positive hrequested hn size, ?_⟩
    intro hrequested hfits
    obtain ⟨target, htarget, -, -⟩ := resolveSize_of_not_overflows hsize hfits
    exact ⟨target, htarget,
      (resizedSize_of_leavesOne hrequested hscale hn hsize).trans htarget⟩

/-- Two triplings and one resampling of the same picture, and a side that no double holds. -/
theorem repeated_resize_size_open :
    let s := session nearestEngine {} "scaler"
    let p := Picture.ofSamples 2 1 3 UInt8.ofNat
    (∃ p' q w' v', (s.applyTimes ⟨"Scale3x", .pixelArt .scale3x⟩ ⟨5, 0⟩ 2 p).Yields {} p' w' ∧
      (s.applyTimes ⟨"Pixel", .kernel .nearest⟩ ⟨5, 0⟩ 1 p).Yields {} q v' ∧
      resolveSize p.size ⟨5, 0⟩ = .ok p'.size ∧ q.size = p'.size) ∧
    ∃ target, resolveSize ⟨2 ^ 60 + 1, 7⟩ ⟨0, 3⟩ = .ok target ∧
      resizedSize 3 ⟨0, 3⟩ 5 ⟨2 ^ 60 + 1, 7⟩ = .ok target := by
  intro s p
  obtain ⟨hpictures, hsizes⟩ := repeated_resize_size nearestEngine {} "scaler"
  constructor
  · have htripled : ((s.applyTimes ⟨"Scale3x", .pixelArt .scale3x⟩ ⟨5, 0⟩ 2 p).run
        {}).result.toBool = true := by decide +kernel
    have hresampled : ((s.applyTimes ⟨"Pixel", .kernel .nearest⟩ ⟨5, 0⟩ 1 p).run
        {}).result.toBool = true := by decide +kernel
    obtain ⟨p', hp'⟩ := Except.eq_ok_of_toBool htripled
    obtain ⟨q, hq⟩ := Except.eq_ok_of_toBool hresampled
    obtain ⟨-, -, hopen⟩ := hpictures _ ⟨5, 0⟩ 2 p p' {} _ ⟨by decide, by decide⟩ two_pos
      ⟨hp', rfl⟩
    obtain ⟨hsize, hsame⟩ := hopen (.inr ⟨by decide, le_rfl⟩)
    exact ⟨p', q, _, _, ⟨hp', rfl⟩, ⟨hq, rfl⟩, hsize, hsame _ 1 q {} _ one_pos ⟨hq, rfl⟩⟩
  · obtain ⟨-, hopen⟩ := hsizes ⟨2 ^ 60 + 1, 7⟩ ⟨0, 3⟩ 3 5 ⟨by decide, by decide⟩ (by decide)
      (by decide)
    refine hopen (.inl ⟨le_rfl, by decide⟩) ?_
    unfold Size.Overflows
    decide +kernel

end FileService

end BatchScaler

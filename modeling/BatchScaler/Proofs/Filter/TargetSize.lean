import BatchScaler.Filter.PixelArt
import BatchScaler.Proofs.Filter.Steps
import BatchScaler.Proofs.Raster.Assembly

namespace BatchScaler

variable {α : Type}

theorem Scale.nonneg_of_engineSize {horizontal vertical : Scale} (hh : 0 ≤ horizontal.factor)
    (hv : 0 ≤ vertical.factor) {size size' : Size} (hsize : size.Nonneg)
    (h : engineSize horizontal vertical size = .ok size') : size'.Nonneg := by
  unfold engineSize at h
  split at h
  · cases h
  · obtain ⟨width, hwidth, h⟩ := Except.bind_eq_ok_iff.1 h
    obtain ⟨height, hheight, h⟩ := Except.bind_eq_ok_iff.1 h
    cases h
    exact ⟨resizedSide_nonneg hh hsize.width_nonneg hwidth,
      resizedSide_nonneg hv hsize.height_nonneg hheight⟩

theorem Raster.size_nonneg (r : Raster α) : r.size.Nonneg :=
  ⟨Int.natCast_nonneg _, Int.natCast_nonneg _⟩

namespace Step

variable {e : Interpolator α} {r r' : Raster α}

def FactorsNonneg : Step → Prop
  | resize horizontal vertical _ => 0 ≤ horizontal.factor ∧ 0 ≤ vertical.factor
  | _ => True

theorem resultSize_of_run {step : Step} (hstep : step.FactorsNonneg)
    (h : run e r step = .ok r') : resultSize Scale.engineSize r.size step = .ok r'.size := by
  cases step with
  | embed x y width height mode =>
    simp only [run] at h
    split at h
    · next hpos =>
      cases h
      have hsize : Size.Nonneg ⟨width, height⟩ := ⟨hpos.2.2.1.le, hpos.2.2.2.le⟩
      exact congrArg Except.ok hsize.mk_toNat.symm
    · cases h
  | crop x y width height =>
    simp only [run] at h
    split at h
    · next hpos =>
      cases h
      have hsize : Size.Nonneg ⟨width, height⟩ := ⟨hpos.2.1.le, hpos.2.2.2.2.1.le⟩
      exact congrArg Except.ok hsize.mk_toNat.symm
    · cases h
  | resize horizontal vertical kernel =>
    simp only [run] at h
    split at h
    · obtain ⟨size, hsize, h⟩ := Except.bind_eq_ok_iff.1 h
      cases h
      have hnonneg := Scale.nonneg_of_engineSize hstep.1 hstep.2 r.size_nonneg hsize
      exact hsize.trans (congrArg Except.ok hnonneg.mk_toNat.symm)
    · cases h

theorem finalSize_of_runAll {steps : List Step} (hsteps : ∀ step ∈ steps, step.FactorsNonneg)
    (h : runAll e r steps = .ok r') : finalSize Scale.engineSize r.size steps = .ok r'.size := by
  induction steps generalizing r with
  | nil =>
    cases h
    rfl
  | cons step steps ih =>
    obtain ⟨r₁, hstep, hrest⟩ := Except.bind_eq_ok_iff.1 h
    refine Except.bind_eq_ok_iff.2 ⟨r₁.size, ?_, ?_⟩
    · exact resultSize_of_run (hsteps step List.mem_cons_self) hstep
    · exact ih (fun step hmem ↦ hsteps step (List.mem_cons_of_mem _ hmem)) hrest

variable {resized : Scale → Scale → Size → Except Fault Size}

theorem finalSize_append {size size' : Size} {steps steps' : List Step}
    (h : finalSize resized size steps = .ok size') :
    finalSize resized size (steps ++ steps') = finalSize resized size' steps' := by
  unfold finalSize at h ⊢
  rw [List.foldlM_append, h]
  rfl

section Plans

variable {P : Step → Prop}

theorem of_mem_padSteps (hembed : ∀ x y width height mode, P (.embed x y width height mode))
    (size : Size) (marginX marginY : ℤ) (xMode yMode : EdgeMode) :
    ∀ step ∈ padSteps size marginX marginY xMode yMode, P step := by
  intro step hstep
  rcases List.mem_append.1 hstep with hstep | hstep
  · split at hstep
    · rw [List.mem_singleton.1 hstep]
      apply hembed
    · cases hstep
  · split at hstep
    · rw [List.mem_singleton.1 hstep]
      apply hembed
    · cases hstep

theorem of_mem_fitSteps (hembed : ∀ x y width height mode, P (.embed x y width height mode))
    (hcrop : ∀ x y width height, P (.crop x y width height)) (size target : Size)
    (left top : ℤ) : ∀ step ∈ fitSteps size target left top, P step := by
  intro step hstep
  rcases List.mem_append.1 hstep with hstep | hstep
  · split at hstep
    · cases hstep
    · rw [List.mem_singleton.1 hstep]
      apply hcrop
  · split at hstep
    · cases hstep
    · rw [List.mem_singleton.1 hstep]
      apply hembed

/-- The requests of a kernel filter are one resize, and others that move pixels. -/
theorem of_mem_kernelSteps {kernel : Kernel} {size : Size} {aim : Aim} {xMode yMode : EdgeMode}
    {resized : Scale → Scale → Size → Except Fault Size} {steps : List Step}
    (hembed : ∀ x y width height mode, P (.embed x y width height mode))
    (hcrop : ∀ x y width height, P (.crop x y width height))
    (hresize : P (.resize aim.horizontal aim.vertical kernel))
    (h : kernelSteps kernel size aim xMode yMode resized = .ok steps) :
    ∀ step ∈ steps, P step := by
  obtain ⟨size', -, h⟩ := Except.bind_eq_ok_iff.1 h
  obtain ⟨left, -, h⟩ := Except.bind_eq_ok_iff.1 h
  obtain ⟨top, -, h⟩ := Except.bind_eq_ok_iff.1 h
  cases h
  intro step hstep
  rcases List.mem_append.1 hstep with hstep | hstep
  · rcases List.mem_append.1 hstep with hstep | hstep
    · exact of_mem_padSteps hembed _ _ _ _ _ step hstep
    · rw [List.mem_singleton.1 hstep]
      exact hresize
  · exact of_mem_fitSteps hembed hcrop _ _ _ _ step hstep

end Plans

theorem finalSize_fitSteps (size target : Size) (left top : ℤ) :
    finalSize resized size (fitSteps size target left top) = .ok target := by
  unfold fitSteps
  dsimp only
  split
  · next hcut =>
    split
    · next hkept =>
      rw [← hkept, hcut.2.2]
      rfl
    · rfl
  · split
    · next hkept =>
      exact congrArg Except.ok hkept
    · rfl

theorem finalSize_padSteps (size : Size) {marginX marginY : ℤ} (hX : 0 < marginX)
    (hY : 0 < marginY) (xMode yMode : EdgeMode) :
    finalSize resized size (padSteps size marginX marginY xMode yMode) =
      .ok ⟨size.width + 2 * marginX, size.height + 2 * marginY⟩ := by
  simp only [padSteps, if_pos hX, if_pos hY]
  rfl

end Step

/-- The requests of a kernel filter come to the target size, whatever comes of the resize among
them. -/
theorem finalSize_kernelSteps {kernel : Kernel} {size : Size} {aim : Aim} {xMode yMode : EdgeMode}
    {resized : Scale → Scale → Size → Except Fault Size} {steps : List Step}
    (h : kernelSteps kernel size aim xMode yMode resized = .ok steps) :
    Step.finalSize resized size steps = .ok aim.target := by
  obtain ⟨size', hresized, h⟩ := Except.bind_eq_ok_iff.1 h
  obtain ⟨left, -, h⟩ := Except.bind_eq_ok_iff.1 h
  obtain ⟨top, -, h⟩ := Except.bind_eq_ok_iff.1 h
  cases h
  have hmargin : (0 : ℤ) < kernelMargin := by decide
  have hpad : Step.finalSize resized size
      (padSteps size kernelMargin kernelMargin xMode yMode) =
        .ok ⟨size.width + 2 * kernelMargin, size.height + 2 * kernelMargin⟩ :=
    Step.finalSize_padSteps size hmargin hmargin xMode yMode
  have hresize : Step.finalSize resized
      ⟨size.width + 2 * kernelMargin, size.height + 2 * kernelMargin⟩
      [.resize aim.horizontal aim.vertical kernel] = .ok size' :=
    Except.bind_eq_ok_iff.2 ⟨size', hresized, rfl⟩
  rw [List.append_assoc, Step.finalSize_append hpad, Step.finalSize_append hresize]
  exact Step.finalSize_fitSteps size' aim.target left top

theorem Scaler.factor_pos (s : Scaler) : 0 < s.factor := by
  cases s <;> decide

namespace Raster

variable {e : Interpolator α} {r r' : Raster α}

theorem size_resampleTo {kernel : Kernel} {aim : Aim} {xMode yMode : EdgeMode}
    (hh : 0 ≤ aim.horizontal.factor) (hv : 0 ≤ aim.vertical.factor)
    (h : r.resampleTo e kernel aim xMode yMode = .ok r') : r'.size = aim.target := by
  obtain ⟨steps, hsteps, hrun⟩ := Except.bind_eq_ok_iff.1 h
  have hfactors : ∀ step ∈ steps, step.FactorsNonneg :=
    Step.of_mem_kernelSteps (fun _ _ _ _ _ ↦ trivial) (fun _ _ _ _ ↦ trivial) ⟨hh, hv⟩ hsteps
  have hfinal := Step.finalSize_of_runAll hfactors hrun
  rw [finalSize_kernelSteps hsteps] at hfinal
  exact (Except.ok.inj hfinal).symm

theorem size_fitExact {target : Size} {left top : ℤ} (h : r.fitExact target left top = .ok r') :
    r'.size = target := by
  have hfactors : ∀ step ∈ fitSteps r.size target left top, step.FactorsNonneg :=
    Step.of_mem_fitSteps (fun _ _ _ _ _ ↦ trivial) (fun _ _ _ _ ↦ trivial) _ _ _ _
  have hfinal := Step.finalSize_of_runAll hfactors h
  rw [Step.finalSize_fitSteps] at hfinal
  exact (Except.ok.inj hfinal).symm

variable [DecidableEq α] [Inhabited α]

theorem size_enlarge (s : Scaler) (padded : Raster α) :
    (enlarge s padded).size =
      ⟨(padded.width - 2 : ℕ) * s.factor, (padded.height - 2 : ℕ) * s.factor⟩ := by
  obtain ⟨n, hn⟩ := Nat.exists_eq_succ_of_ne_zero (Nat.mul_pos s.factor_pos s.factor_pos).ne'
  unfold enlarge
  rw [hn, List.range_succ_eq_map, List.map_cons, size_assemble]
  rfl

omit [DecidableEq α] [Inhabited α] in
theorem sides_of_pad {margin : ℤ} {xMode yMode : EdgeMode}
    (h : r.pad margin xMode yMode = .ok r') :
    r'.width = r.width + 2 * margin.toNat ∧ r'.height = r.height + 2 * margin.toNat := by
  unfold pad at h
  split at h
  · cases h
  · split at h
    · next hzero =>
      subst hzero
      cases h
      exact ⟨rfl, rfl⟩
    · split at h
      · dsimp only at h
        split at h
        · cases h
          exact ⟨rfl, rfl⟩
        · cases h
      · cases h

theorem size_enlargePadded {s : Scaler} {xMode yMode : EdgeMode}
    (h : r.enlargePadded s xMode yMode = .ok r') : r'.size = r.naturalSize s := by
  obtain ⟨padded, hpadded, h⟩ := Except.bind_eq_ok_iff.1 h
  cases h
  obtain ⟨hwidth, hheight⟩ := sides_of_pad hpadded
  rw [size_enlarge, hwidth, hheight]
  rfl

theorem size_enlargeTo {s : Scaler} {target : Size} {xMode yMode : EdgeMode}
    (h : r.enlargeTo e s target xMode yMode = .ok r') : r'.size = target := by
  obtain ⟨enlarged, henlarged, h⟩ := Except.bind_eq_ok_iff.1 h
  split at h
  · next htarget =>
    cases h
    rw [size_enlargePadded henlarged, htarget]
  · obtain ⟨horizontal, -, h⟩ := Except.bind_eq_ok_iff.1 h
    obtain ⟨vertical, -, h⟩ := Except.bind_eq_ok_iff.1 h
    obtain ⟨resized, -, h⟩ := Except.bind_eq_ok_iff.1 h
    exact size_fitExact h

end Raster

end BatchScaler

import BatchScaler.Proofs.Filter.Steps

namespace BatchScaler

def Step.CropsInside (size : Size) : Step → Prop
  | crop x y width height =>
    (0 ≤ x ∧ 1 ≤ width ∧ x + width ≤ size.width) ∧ (0 ≤ y ∧ 1 ≤ height ∧ y + height ≤ size.height)
  | _ => True

namespace Raster

variable {α : Type} {r : Raster α} {target : Size}

theorem cropsInside_fitSteps {size : Size} (hsize : size.Positive) (ht : target.Positive)
    (left top : ℤ) : ∀ step ∈ fitSteps size target left top, step.CropsInside size := by
  intro step hstep
  rcases List.mem_append.1 hstep with hstep | hstep
  · split at hstep
    · cases hstep
    · rw [List.mem_singleton.1 hstep]
      exact ⟨Step.crop_bounds hsize.width_pos ht.width_pos left,
        Step.crop_bounds hsize.height_pos ht.height_pos top⟩
  · split at hstep
    · cases hstep
    · rw [List.mem_singleton.1 hstep]
      trivial

/-- A fit always succeeds. It shows what is seen from the wished position on, as far as that can be
had without leaving the image, and repeats the last row and column where the image ends. -/
theorem fits_exactly (hr : r.size.Positive) (ht : target.Positive) (left top : ℤ) :
    let l := (max 0 (min left (r.width - target.width))).toNat
    let t := (max 0 (min top (r.height - target.height))).toNat
    (∀ step ∈ fitSteps r.size target left top, step.CropsInside r.size) ∧
    ∃ r', r.fitExact target left top = .ok r' ∧ r'.size = target ∧
      r.Shows r' (fun x ↦ min (l + x) (r.width - 1)) (fun y ↦ min (t + y) (r.height - 1)) :=
  ⟨cropsInside_fitSteps hr ht left top, Step.moves_fitSteps .nearestPixel hr ht left top⟩

/-- The image is too wide and not high enough, and the cut is wished beyond two of its edges. -/
theorem fits_exactly_mixed :
    let r : Raster ℕ := .ofFn 3 2 fun x y ↦ 10 * y + x
    (∀ step ∈ fitSteps r.size ⟨2, 4⟩ 5 (-7), step.CropsInside r.size) ∧
    ∃ r', r.fitExact ⟨2, 4⟩ 5 (-7) = .ok r' ∧ r'.size = ⟨2, 4⟩ ∧
      r.Shows r' (fun x ↦ min (1 + x) 2) (fun y ↦ min (0 + y) 1) := by
  intro r
  exact fits_exactly (r := r) ⟨by decide, by decide⟩ ⟨by decide, by decide⟩ 5 (-7)

end Raster

end BatchScaler

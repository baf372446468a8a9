import BatchScaler.Proofs.Raster.Shows
import BatchScaler.Proofs.Size.Resolution

namespace BatchScaler

def fitIndex (length : ℕ) (target start : ℤ) (i : ℕ) : ℕ :=
  min ((cropStart length target start).toNat + i) (length - 1)

variable {α : Type}

namespace Raster

variable {r : Raster α}

theorem width_pos (h : r.size.Positive) : 0 < r.width :=
  Int.natCast_pos.1 h.width_pos

theorem height_pos (h : r.size.Positive) : 0 < r.height :=
  Int.natCast_pos.1 h.height_pos

end Raster

namespace Step

variable {e : Interpolator α} {r : Raster α}

/-- The requests are met, and all they do is to move pixels: what comes of them has the given size
and shows the raster through the two index maps. -/
def Moves (e : Interpolator α) (r : Raster α) (steps : List Step) (size : Size)
    (column row : ℕ → ℕ) : Prop :=
  ∃ r', runAll e r steps = .ok r' ∧ r'.size = size ∧ r.Shows r' column row

theorem runAll_append (steps steps' : List Step) :
    runAll e r (steps ++ steps') = runAll e r steps >>= fun r' ↦ runAll e r' steps' :=
  List.foldlM_append

theorem runAll_singleton (step : Step) : runAll e r [step] = run e r step := by
  unfold runAll
  rw [List.foldlM_cons]
  cases run e r step with
  | error fault => rfl
  | ok r' => rfl

theorem Moves.nil (e : Interpolator α) (r : Raster α) : Moves e r [] r.size id id :=
  ⟨r, rfl, rfl, .refl r⟩

theorem Moves.append {steps steps' : List Step} {size size' : Size}
    {column row column' row' : ℕ → ℕ} (h : Moves e r steps size column row)
    (h' : ∀ r', r'.size = size → Moves e r' steps' size' column' row') :
    Moves e r (steps ++ steps') size' (column ∘ column') (row ∘ row') := by
  obtain ⟨r', hrun, hsize, hshows⟩ := h
  obtain ⟨r'', hrun', hsize', hshows'⟩ := h' r' hsize
  refine ⟨r'', ?_, hsize', hshows.trans hshows'⟩
  rw [runAll_append, hrun]
  exact hrun'

theorem Moves.congr {steps : List Step} {size : Size} {column row column' row' : ℕ → ℕ}
    (h : Moves e r steps size column row)
    (hcolumn : ∀ x : ℕ, x < size.width → column x = column' x)
    (hrow : ∀ y : ℕ, y < size.height → row y = row' y) : Moves e r steps size column' row' := by
  obtain ⟨r', hrun, rfl, hshows⟩ := h
  exact ⟨r', hrun, rfl, hshows.congr (fun x hx ↦ hcolumn x (Int.ofNat_lt.2 hx))
    fun y hy ↦ hrow y (Int.ofNat_lt.2 hy)⟩

theorem moves_embed (e : Interpolator α) (hr : r.size.Positive) (x y : ℤ) {size : Size}
    (hsize : size.Positive) (mode : EdgeMode) :
    Moves e r [.embed x y size.width size.height mode] size (fun i ↦ mode.index r.width (i - x))
      (fun j ↦ mode.index r.height (j - y)) := by
  have hw := Raster.width_pos hr
  have hh := Raster.height_pos hr
  refine ⟨r.view (-x) (-y) size.width.toNat size.height.toNat mode.extend hw hh, ?_,
    hsize.nonneg.mk_toNat, ?_⟩
  · rw [runAll_singleton]
    exact dif_pos ⟨hw, hh, hsize.width_pos, hsize.height_pos⟩
  · refine Raster.shows_remap (fun i ↦ ?_) fun j ↦ ?_
    · exact congrArg (mode.index r.width) (by omega)
    · exact congrArg (mode.index r.height) (by omega)

theorem moves_crop (e : Interpolator α) {x y : ℤ} {size : Size} (hsize : size.Positive)
    (hx : 0 ≤ x) (hwidth : x + size.width ≤ r.width) (hy : 0 ≤ y)
    (hheight : y + size.height ≤ r.height) :
    Moves e r [.crop x y size.width size.height] size (x.toNat + ·) (y.toNat + ·) := by
  have hwidthPos := hsize.width_pos
  have hheightPos := hsize.height_pos
  refine ⟨r.remap size.width.toNat size.height.toNat (fun i ↦ ⟨x.toNat + i, by omega⟩)
    (fun j ↦ ⟨y.toNat + j, by omega⟩), ?_, hsize.nonneg.mk_toNat, ?_⟩
  · rw [runAll_singleton]
    exact dif_pos ⟨hx, hwidthPos, hwidth, hy, hheightPos, hheight⟩
  · exact Raster.shows_remap (fun _ ↦ rfl) fun _ ↦ rfl

theorem run_resize (hr : r.size.Positive) {horizontal vertical : Scale} {size : Size}
    (h : Scale.engineSize horizontal vertical r.size = .ok size) (hsize : size.Positive)
    (kernel : Kernel) :
    ∃ r', run e r (.resize horizontal vertical kernel) = .ok r' ∧ r'.size = size ∧
      (kernel = .nearest → r.Shows r' (fun i ↦ min (horizontal.nearestIndex i) (r.width - 1))
        (fun j ↦ min (vertical.nearestIndex j) (r.height - 1))) := by
  have hw := Raster.width_pos hr
  have hh := Raster.height_pos hr
  refine ⟨r.resample e kernel horizontal vertical size.width.toNat size.height.toNat hw hh,
    ?_, hsize.nonneg.mk_toNat, ?_⟩
  · refine (dif_pos ⟨hw, hh⟩).trans ?_
    rw [h]
    rfl
  · rintro rfl
    exact Raster.shows_remap (c := fun x ↦ Raster.nearestSource horizontal hw x)
      (d := fun y ↦ Raster.nearestSource vertical hh y) (fun _ ↦ rfl) fun _ ↦ rfl

theorem index_sub_zero (mode : EdgeMode) {n i : ℕ} (h : i < n) : mode.index n (i - 0) = i := by
  rw [sub_zero]
  exact mode.index_of_lt h

theorem moves_padColumns (e : Interpolator α) (hr : r.size.Positive) {margin : ℤ}
    (hmargin : 0 ≤ margin) (mode : EdgeMode) :
    Moves e r
      (if 0 < margin then [.embed margin 0 (r.size.width + 2 * margin) r.size.height mode] else [])
      ⟨r.size.width + 2 * margin, r.size.height⟩ (fun x ↦ mode.index r.width (x - margin)) id := by
  have hwidth := hr.width_pos
  split
  · have hsize : Size.Positive ⟨r.size.width + 2 * margin, r.size.height⟩ :=
      ⟨show 0 < r.size.width + 2 * margin by omega, hr.height_pos⟩
    exact (moves_embed e hr margin 0 hsize mode).congr (fun _ _ ↦ rfl)
      fun y hy ↦ index_sub_zero mode (Int.ofNat_lt.1 hy)
  · obtain rfl : margin = 0 := by omega
    rw [mul_zero, add_zero]
    exact (Moves.nil e r).congr (fun x hx ↦ (index_sub_zero mode (Int.ofNat_lt.1 hx)).symm)
      fun _ _ ↦ rfl

theorem moves_padRows (e : Interpolator α) (hr : r.size.Positive) {margin : ℤ}
    (hmargin : 0 ≤ margin) (mode : EdgeMode) :
    Moves e r
      (if 0 < margin then [.embed 0 margin r.size.width (r.size.height + 2 * margin) mode] else [])
      ⟨r.size.width, r.size.height + 2 * margin⟩ id (fun y ↦ mode.index r.height (y - margin)) := by
  have hheight := hr.height_pos
  split
  · have hsize : Size.Positive ⟨r.size.width, r.size.height + 2 * margin⟩ :=
      ⟨hr.width_pos, show 0 < r.size.height + 2 * margin by omega⟩
    exact (moves_embed e hr 0 margin hsize mode).congr
      (fun x hx ↦ index_sub_zero mode (Int.ofNat_lt.1 hx)) fun _ _ ↦ rfl
  · obtain rfl : margin = 0 := by omega
    rw [mul_zero, add_zero]
    exact (Moves.nil e r).congr (fun _ _ ↦ rfl)
      fun y hy ↦ (index_sub_zero mode (Int.ofNat_lt.1 hy)).symm

/-- Padding always succeeds: a margin is read from the axis it lies on, by the mode of that axis. -/
theorem moves_padSteps (e : Interpolator α) (hr : r.size.Positive) {marginX marginY : ℤ}
    (hX : 0 ≤ marginX) (hY : 0 ≤ marginY) (xMode yMode : EdgeMode) :
    Moves e r (padSteps r.size marginX marginY xMode yMode)
      ⟨r.size.width + 2 * marginX, r.size.height + 2 * marginY⟩
      (fun x ↦ xMode.index r.width (x - marginX)) (fun y ↦ yMode.index r.height (y - marginY)) := by
  have hwidth := hr.width_pos
  have hpadded : (if 0 < marginX then r.size.width + 2 * marginX else r.size.width) =
      r.size.width + 2 * marginX := by
    split <;> omega
  unfold padSteps
  dsimp only
  rw [hpadded]
  refine (moves_padColumns e hr hX xMode).append fun r' hsize ↦ ?_
  have hheight : r'.height = r.height := Int.ofNat_inj.1 (congrArg Size.height hsize)
  have hr' : r'.size.Positive := by
    rw [hsize]
    exact ⟨show 0 < r.size.width + 2 * marginX by omega, hr.height_pos⟩
  have hrows := moves_padRows e hr' hY yMode
  rwa [hsize, hheight] at hrows

theorem crop_bounds {length target : ℤ} (hlength : 0 < length) (htarget : 0 < target) (start : ℤ) :
    0 ≤ cropStart length target start ∧ 0 < cropLength length target start ∧
      cropStart length target start + cropLength length target start ≤ length := by
  unfold cropLength cropStart
  omega

theorem fitIndex_eq {length : ℕ} {target : ℤ} (hlength : 0 < length) (start : ℤ) {i : ℕ}
    (hi : i < target) :
    (cropStart length target start).toNat +
        min i ((cropLength length target start).toNat - 1) = fitIndex length target start i := by
  unfold fitIndex cropLength cropStart
  omega

theorem moves_cut (e : Interpolator α) {x y : ℤ} {kept : Size} (hkept : kept.Positive)
    (hx : 0 ≤ x) (hwidth : x + kept.width ≤ r.width) (hy : 0 ≤ y)
    (hheight : y + kept.height ≤ r.height) :
    Moves e r (if x = 0 ∧ y = 0 ∧ kept = r.size then [] else [.crop x y kept.width kept.height])
      kept (x.toNat + ·) (y.toNat + ·) := by
  split
  · next h =>
    obtain ⟨rfl, rfl, rfl⟩ := h
    exact (Moves.nil e r).congr (fun i _ ↦ (Nat.zero_add i).symm) fun j _ ↦ (Nat.zero_add j).symm
  · exact moves_crop e hkept hx hwidth hy hheight

theorem moves_extend (e : Interpolator α) (hr : r.size.Positive) {target : Size}
    (ht : target.Positive) :
    Moves e r
      (if r.size = target then []
        else [.embed 0 0 target.width target.height .constantExtension])
      target (fun i ↦ min i (r.size.width.toNat - 1))
      (fun j ↦ min j (r.size.height.toNat - 1)) := by
  have hindex (n i : ℕ) (hn : 0 < n) :
      EdgeMode.constantExtension.index n (i - 0) = min i (n - 1) := by
    simp only [EdgeMode.index, EdgeMode.extend, Extend.index]
    omega
  split
  · next h =>
    obtain rfl := h
    refine (Moves.nil e r).congr (fun i hi ↦ ?_) fun j hj ↦ ?_
    · exact (min_eq_left (Nat.le_sub_one_of_lt (Int.ofNat_lt.1 hi))).symm
    · exact (min_eq_left (Nat.le_sub_one_of_lt (Int.ofNat_lt.1 hj))).symm
  · exact (moves_embed e hr 0 0 ht .constantExtension).congr
      (fun i _ ↦ hindex r.width i (Raster.width_pos hr))
      fun j _ ↦ hindex r.height j (Raster.height_pos hr)

theorem moves_fitSteps (e : Interpolator α) (hr : r.size.Positive) {target : Size}
    (ht : target.Positive) (left top : ℤ) :
    Moves e r (fitSteps r.size target left top) target (fitIndex r.width target.width left)
      (fitIndex r.height target.height top) := by
  have hcolumns := crop_bounds hr.width_pos ht.width_pos left
  have hrows := crop_bounds hr.height_pos ht.height_pos top
  have hkept : Size.Positive ⟨cropLength r.size.width target.width left,
      cropLength r.size.height target.height top⟩ := ⟨hcolumns.2.1, hrows.2.1⟩
  have hcut := moves_cut e hkept hcolumns.1 hcolumns.2.2 hrows.1 hrows.2.2
  refine Moves.congr (hcut.append fun r' hsize ↦ ?_)
    (fun i hi ↦ fitIndex_eq (Raster.width_pos hr) left hi)
    fun j hj ↦ fitIndex_eq (Raster.height_pos hr) top hj
  have hextend := moves_extend e (hsize ▸ hkept) ht
  rwa [hsize] at hextend

end Step

end BatchScaler

import Mathlib.Data.List.GetD
import BatchScaler.Proofs.Filter.Surroundings
import BatchScaler.Proofs.Report.Results

namespace BatchScaler

variable {α β : Type} {g : α → β}

namespace Neighbourhood

def map (g : α → β) (n : Neighbourhood α) : Neighbourhood β :=
  ⟨g n.a, g n.b, g n.c, g n.d, g n.e, g n.f, g n.g, g n.h, g n.i⟩

theorem pick_map (n : Neighbourhood α) (test : Bool) (value : α) :
    (n.map g).pick test (g value) = g (n.pick test value) :=
  (apply_ite g (test = true) value n.e).symm

variable [DecidableEq α] [DecidableEq β]

theorem corners_map (hg : g.Injective) (n : Neighbourhood α) :
    (n.map g).topLeft = n.topLeft ∧ (n.map g).topRight = n.topRight ∧
      (n.map g).bottomLeft = n.bottomLeft ∧ (n.map g).bottomRight = n.bottomRight := by
  simp only [topLeft, topRight, bottomLeft, bottomRight, map, hg.beq_eq, and_self]

end Neighbourhood

namespace Scaler

variable [DecidableEq α] [DecidableEq β] (s : Scaler) (n : Neighbourhood α)

theorem subPixels_map (hg : g.Injective) : s.subPixels (n.map g) = (s.subPixels n).map g := by
  obtain ⟨htl, htr, hbl, hbr⟩ := n.corners_map hg
  cases s with
  | scale2x =>
    simp only [subPixels, Neighbourhood.scale2x, htl, htr, hbl, hbr, List.map_cons, List.map_nil,
      ← Neighbourhood.pick_map]
    rfl
  | scale3x =>
    simp only [subPixels, Neighbourhood.scale3x, htl, htr, hbl, hbr, List.map_cons, List.map_nil,
      ← Neighbourhood.pick_map, ← hg.beq_eq]
    rfl
  | eagle2x =>
    simp only [subPixels, Neighbourhood.eagle2x, List.map_cons, List.map_nil,
      ← Neighbourhood.pick_map, ← hg.beq_eq]
    rfl

theorem subPixel_map (hg : g.Injective) (row column : ℕ) :
    s.subPixel (n.map g) row column = g (s.subPixel n row column) := by
  unfold subPixel
  rw [subPixels_map s n hg]
  exact List.getD_map ..

end Scaler

namespace Raster

variable (g) (r : Raster α)

theorem get_map (x : Fin r.width) (y : Fin r.height) : (r.map g).get x y = g (r.get x y) :=
  get_ofFn r.width r.height (fun x y ↦ g (r.get x y)) x y

theorem remap_map (width height : ℕ) (column : Fin width → Fin r.width)
    (row : Fin height → Fin r.height) :
    (r.map g).remap width height column row = (r.remap width height column row).map g := by
  refine congrArg (ofFn width height) (funext₂ fun x y ↦ ?_)
  calc (r.map g).get (column x) (row y)
      = g (r.get (column x) (row y)) := r.get_map g (column x) (row y)
    _ = g ((r.remap width height column row).get x y) :=
        congrArg g (get_ofFn width height (fun x y ↦ r.get (column x) (row y)) x y).symm

theorem surroundings_map (xMode yMode : EdgeMode) (x : Fin r.width) (y : Fin r.height) :
    (r.map g).surroundings xMode yMode x y = (r.surroundings xMode yMode x y).map g := by
  simp only [surroundings, Neighbourhood.map, Neighbourhood.mk.injEq]
  exact ⟨get_map .., get_map .., get_map .., get_map .., get_map .., get_map .., get_map ..,
    get_map .., get_map ..⟩

section PixelArt

variable [DecidableEq α] [DecidableEq β] (s : Scaler) (xMode yMode : EdgeMode)

variable {g} in
theorem enlargement_map (hg : g.Injective) :
    (r.map g).enlargement s xMode yMode = (r.enlargement s xMode yMode).map g := by
  refine congrArg (ofFn (r.width * s.factor) (r.height * s.factor)) ?_
  funext (x : Fin (r.width * s.factor)) (y : Fin (r.height * s.factor))
  calc s.subPixel ((r.map g).surroundings xMode yMode x.divNat y.divNat) y.modNat x.modNat
      = s.subPixel ((r.surroundings xMode yMode x.divNat y.divNat).map g) y.modNat x.modNat :=
        congrArg (s.subPixel · y.modNat x.modNat) (r.surroundings_map g xMode yMode _ _)
    _ = g (s.subPixel (r.surroundings xMode yMode x.divNat y.divNat) y.modNat x.modNat) :=
        s.subPixel_map _ hg y.modNat x.modNat
    _ = g ((r.enlargement s xMode yMode).get x y) :=
        congrArg g (r.get_enlargement s xMode yMode x y).symm

variable {g} in
theorem enlargePadded_map [Inhabited α] [Inhabited β] (hg : g.Injective) :
    (r.map g).enlargePadded s xMode yMode = (r.enlargePadded s xMode yMode).map (map g) := by
  by_cases hr : r.size.Positive
  · rw [enlargePadded_eq hr]
    refine (enlargePadded_eq (r := r.map g) hr s xMode yMode).trans ?_
    exact congrArg Except.ok (r.enlargement_map s xMode yMode hg)
  · rw [enlargePadded_of_empty hr]
    exact enlargePadded_of_empty (r := r.map g) hr s xMode yMode

end PixelArt

end Raster

namespace Step

def Copies : Step → Prop
  | resize _ _ kernel => kernel = .nearest
  | _ => True

variable (e : Interpolator α) (e' : Interpolator β) (r : Raster α)

theorem run_nearest (horizontal vertical : Scale) (h : 0 < r.width ∧ 0 < r.height) :
    run e r (.resize horizontal vertical .nearest) =
      Scale.engineSize horizontal vertical r.size >>= fun size ↦
        .ok (r.remap size.width.toNat size.height.toNat
          (fun x ↦ Raster.nearestSource horizontal h.1 x)
          (fun y ↦ Raster.nearestSource vertical h.2 y)) :=
  dif_pos h

theorem run_map {step : Step} (hstep : step.Copies) :
    run e' (r.map g) step = (run e r step).map (Raster.map g) := by
  cases step with
  | embed x y width height mode =>
    by_cases h : 0 < r.width ∧ 0 < r.height ∧ 0 < width ∧ 0 < height
    · have hrun : run e r (.embed x y width height mode) =
          .ok (r.view (-x) (-y) width.toNat height.toNat mode.extend h.1 h.2.1) := dif_pos h
      rw [hrun]
      exact (dif_pos h).trans (congrArg Except.ok (r.remap_map ..))
    · have hrun : run e r (.embed x y width height mode) = .error .engine := dif_neg h
      rw [hrun]
      exact dif_neg h
  | crop x y width height =>
    by_cases h : 0 ≤ x ∧ 0 < width ∧ x + width ≤ r.width ∧ 0 ≤ y ∧ 0 < height ∧
        y + height ≤ r.height
    · have hrun : run e r (.crop x y width height) =
          .ok (r.remap width.toNat height.toNat (fun i ↦ ⟨x.toNat + i, by omega⟩)
            (fun j ↦ ⟨y.toNat + j, by omega⟩)) := dif_pos h
      rw [hrun]
      exact (dif_pos h).trans (congrArg Except.ok (r.remap_map ..))
    · have hrun : run e r (.crop x y width height) = .error .engine := dif_neg h
      rw [hrun]
      exact dif_neg h
  | resize horizontal vertical kernel =>
    obtain rfl : kernel = .nearest := hstep
    by_cases h : 0 < r.width ∧ 0 < r.height
    · rw [run_nearest e r horizontal vertical h]
      refine (run_nearest e' (r.map g) horizontal vertical h).trans ?_
      show (Scale.engineSize horizontal vertical r.size >>= _) = _
      cases Scale.engineSize horizontal vertical r.size with
      | error fault => rfl
      | ok size => exact congrArg Except.ok (r.remap_map ..)
    · have hrun : run e r (.resize horizontal vertical .nearest) = .error .engine := dif_neg h
      rw [hrun]
      exact dif_neg h

theorem runAll_map {steps : List Step} (hsteps : ∀ step ∈ steps, step.Copies) :
    runAll e' (r.map g) steps = (runAll e r steps).map (Raster.map g) := by
  induction steps generalizing r with
  | nil => rfl
  | cons step steps ih =>
    obtain ⟨hstep, hrest⟩ := List.forall_mem_cons.1 hsteps
    show (run e' (r.map g) step >>= fun r' ↦ runAll e' r' steps) =
      (run e r step >>= fun r' ↦ runAll e r' steps).map (Raster.map g)
    rw [run_map e e' r hstep]
    cases run e r step with
    | error fault => rfl
    | ok r' => exact ih r' hrest

end Step

namespace Raster

section Filters

variable (e : Interpolator α) (e' : Interpolator β) (r : Raster α)

theorem fitExact_map (target : Size) (left top : ℤ) :
    (r.map g).fitExact target left top = (r.fitExact target left top).map (map g) := by
  apply Step.runAll_map
  apply Step.of_mem_fitSteps
  · intros
    trivial
  · intros
    trivial

theorem resampleTo_map (aim : Aim) (xMode yMode : EdgeMode) :
    (r.map g).resampleTo e' .nearest aim xMode yMode =
      (r.resampleTo e .nearest aim xMode yMode).map (map g) := by
  show (kernelSteps .nearest r.size aim xMode yMode Scale.engineSize >>= _) =
    (kernelSteps .nearest r.size aim xMode yMode Scale.engineSize >>= _).map (map g)
  cases hsteps : kernelSteps .nearest r.size aim xMode yMode Scale.engineSize with
  | error fault => rfl
  | ok steps =>
    have hcopies : ∀ step ∈ steps, step.Copies :=
      Step.of_mem_kernelSteps (fun _ _ _ _ _ ↦ trivial) (fun _ _ _ _ ↦ trivial) rfl hsteps
    exact Step.runAll_map e e' r hcopies

def refit (e : Interpolator α) (natural target : Size) (r : Raster α) :
    Except Fault (Raster α) := do
  let horizontal ← Scale.between target.width natural.width
  let vertical ← Scale.between target.height natural.height
  let resized ← (Step.resize horizontal vertical .nearest).run e r
  resized.fitExact target 0 0

theorem refit_map (natural target : Size) :
    (r.map g).refit e' natural target = (r.refit e natural target).map (map g) := by
  refine Except.bind_eq_map fun horizontal ↦ Except.bind_eq_map fun vertical ↦ ?_
  have hresize : (Step.resize horizontal vertical .nearest).Copies := rfl
  rw [Step.run_map e e' r hresize]
  cases (Step.resize horizontal vertical .nearest).run e r with
  | error fault => rfl
  | ok resized => exact resized.fitExact_map target 0 0

variable [DecidableEq α] [DecidableEq β] [Inhabited α] [Inhabited β]

omit [DecidableEq β] [Inhabited β] in
theorem enlargeTo_eq (s : Scaler) (target : Size) (xMode yMode : EdgeMode) :
    r.enlargeTo e s target xMode yMode = r.enlargePadded s xMode yMode >>= fun enlarged ↦
      if target = r.naturalSize s then .ok enlarged
      else enlarged.refit e (r.naturalSize s) target := rfl

theorem enlargeTo_map (hg : g.Injective) (s : Scaler) (target : Size) (xMode yMode : EdgeMode) :
    (r.map g).enlargeTo e' s target xMode yMode =
      (r.enlargeTo e s target xMode yMode).map (map g) := by
  rw [enlargeTo_eq, enlargeTo_eq, r.enlargePadded_map s xMode yMode hg]
  cases r.enlargePadded s xMode yMode with
  | error fault => rfl
  | ok enlarged =>
    show (if target = r.naturalSize s then .ok (enlarged.map g)
        else (enlarged.map g).refit e' (r.naturalSize s) target) =
      (if target = r.naturalSize s then .ok enlarged
        else enlarged.refit e (r.naturalSize s) target).map (map g)
    rw [apply_ite (Except.map (map g)), refit_map e e']
    rfl

end Filters

section Colours

variable {e : Interpolator α} {r r' : Raster α} {c : α}

def Has (r : Raster α) (c : α) : Prop :=
  ∃ x y, r.get x y = c

/-- A raster is a recolouring of one that has no colours but its own. -/
theorem exists_map_val (r : Raster α) : ∃ r₀ : Raster {c // r.Has c}, r₀.map Subtype.val = r := by
  refine ⟨ofFn r.width r.height fun x y ↦ ⟨r.get x y, x, y, rfl⟩, ?_⟩
  refine ext_get rfl rfl fun (x : Fin r.width) (y : Fin r.height) ↦ ?_
  refine (get_map Subtype.val (ofFn r.width r.height _) x y).trans ?_
  exact congrArg Subtype.val (get_ofFn r.width r.height _ x y)

theorem of_has_map_val {P : α → Prop} {outcome : Except Fault (Raster {c // P c})}
    (h : .ok r' = outcome.map (map Subtype.val)) (hc : r'.Has c) : P c := by
  cases outcome with
  | error fault => cases h
  | ok r₀ =>
    cases h
    obtain ⟨x, y, rfl⟩ := hc
    rw [r₀.get_map Subtype.val x y]
    exact (r₀.get x y).property

theorem has_of_resampleTo {aim : Aim} {xMode yMode : EdgeMode}
    (h : r.resampleTo e .nearest aim xMode yMode = .ok r') (hc : r'.Has c) : r.Has c := by
  obtain ⟨r₀, hr₀⟩ := r.exists_map_val
  have hmap := r₀.resampleTo_map (g := Subtype.val) .nearestPixel e aim xMode yMode
  rw [hr₀, h] at hmap
  exact of_has_map_val hmap hc

theorem has_of_enlargeTo [DecidableEq α] [Inhabited α] {s : Scaler} {target : Size}
    {xMode yMode : EdgeMode} (h : r.enlargeTo e s target xMode yMode = .ok r') (hc : r'.Has c) :
    r.Has c := by
  by_cases hr : r.size.Positive
  · obtain ⟨r₀, hr₀⟩ := r.exists_map_val
    have : Inhabited {c // r.Has c} := ⟨⟨r.get ⟨0, width_pos hr⟩ ⟨0, height_pos hr⟩, _, _, rfl⟩⟩
    have hmap := r₀.enlargeTo_map .nearestPixel e Subtype.val_injective s target xMode yMode
    rw [hr₀, h] at hmap
    exact of_has_map_val hmap hc
  · rw [enlargeTo_eq, enlargePadded_of_empty hr] at h
    cases h

end Colours

end Raster

end BatchScaler

import BatchScaler.Proofs.Filter.Surroundings

namespace BatchScaler

inductive Reflection
  | horizontal
  | vertical
  | diagonal
  deriving DecidableEq, Repr

def Reflection.onAxes {β : Type} (axes : β × β) : Reflection → β × β
  | diagonal => axes.swap
  | _ => axes

variable {α : Type}

namespace Neighbourhood

def mirrored (n : Neighbourhood α) : Neighbourhood α :=
  ⟨n.c, n.b, n.a, n.f, n.e, n.d, n.i, n.h, n.g⟩

def transposed (n : Neighbourhood α) : Neighbourhood α :=
  ⟨n.a, n.d, n.g, n.b, n.e, n.h, n.c, n.f, n.i⟩

variable [DecidableEq α] (n : Neighbourhood α)

theorem published2x_mirrored (row column : Fin 2) :
    n.mirrored.published2x row column = n.published2x row column.rev := by
  unfold published2x mirrored
  fin_cases row <;> fin_cases column <;> simp [eq_comm]

theorem published3x_mirrored (row column : Fin 3) :
    n.mirrored.published3x row column = n.published3x row column.rev := by
  unfold published3x mirrored
  fin_cases row <;> fin_cases column <;> simp [eq_comm, or_comm]

theorem publishedEagle_mirrored (row column : Fin 2) :
    n.mirrored.publishedEagle row column = n.publishedEagle row column.rev := by
  unfold publishedEagle mirrored
  fin_cases row <;> fin_cases column <;> simp

-- A corner takes one of two side neighbours that are equal there, and which of them it names is
-- exchanged.
theorem published2x_transposed (row column : Fin 2) :
    n.transposed.published2x column row = n.published2x row column := by
  unfold published2x transposed
  fin_cases row <;> fin_cases column <;> grind

theorem published3x_transposed (row column : Fin 3) :
    n.transposed.published3x column row = n.published3x row column := by
  unfold published3x transposed
  fin_cases row <;> fin_cases column <;> grind

theorem publishedEagle_transposed (row column : Fin 2) :
    n.transposed.publishedEagle column row = n.publishedEagle row column := by
  unfold publishedEagle transposed
  fin_cases row <;> fin_cases column <;> grind

end Neighbourhood

namespace Scaler

variable [DecidableEq α] (s : Scaler) (n : Neighbourhood α) (row column : Fin s.factor)

theorem published_mirrored :
    s.published n.mirrored row column = s.published n row column.rev := by
  cases s with
  | scale2x => exact n.published2x_mirrored row column
  | scale3x => exact n.published3x_mirrored row column
  | eagle2x => exact n.publishedEagle_mirrored row column

theorem published_transposed :
    s.published n.transposed column row = s.published n row column := by
  cases s with
  | scale2x => exact n.published2x_transposed row column
  | scale3x => exact n.published3x_transposed row column
  | eagle2x => exact n.publishedEagle_transposed row column

end Scaler

theorem EdgeMode.before_rev (mode : EdgeMode) {n : ℕ} (i : Fin n) :
    mode.before i.rev = (mode.after i).rev := by
  apply Fin.ext
  unfold before after
  by_cases hi : i.val + 1 < n
  · rw [if_neg (by rw [Fin.val_rev]; omega), dif_pos hi]
    simp only [Fin.val_rev]
    omega
  · rw [if_pos (by rw [Fin.val_rev]; omega), dif_neg hi]
    cases mode with
    | constantExtension => rfl
    | mirror => rfl
    | wrap => exact (Fin.val_rev ⟨0, i.pos⟩).symm

theorem EdgeMode.after_rev (mode : EdgeMode) {n : ℕ} (i : Fin n) :
    mode.after i.rev = (mode.before i).rev := by
  have h := mode.before_rev i.rev
  rw [Fin.rev_rev] at h
  rw [h, Fin.rev_rev]

theorem divNat_rev {m n : ℕ} (i : Fin (m * n)) : i.rev.divNat = i.divNat.rev := by
  have hdiv := Nat.mul_sub_div i n m (i.isLt.trans_eq (Nat.mul_comm m n))
  rw [Nat.mul_comm n m] at hdiv
  apply Fin.ext
  rw [Fin.coe_divNat, Fin.val_rev, Fin.val_rev, Fin.coe_divNat]
  exact hdiv

namespace Raster

variable {r : Raster α}

def reflected (r : Raster α) : Reflection → Raster α
  | .horizontal => ofFn r.width r.height fun x y ↦ r.get x.rev y
  | .vertical => ofFn r.width r.height fun x y ↦ r.get x y.rev
  | .diagonal => ofFn r.height r.width fun x y ↦ r.get y x

theorem get_horizontal (x : Fin r.width) (y : Fin r.height) :
    (r.reflected .horizontal).get x y = r.get x.rev y :=
  get_ofFn r.width r.height (fun x y ↦ r.get x.rev y) x y

theorem get_diagonal (x : Fin r.height) (y : Fin r.width) :
    (r.reflected .diagonal).get x y = r.get y x :=
  get_ofFn r.height r.width (fun x y ↦ r.get y x) x y

theorem reflected_vertical (r : Raster α) :
    r.reflected .vertical =
      ((r.reflected .diagonal).reflected .horizontal).reflected .diagonal := by
  refine ext_get rfl rfl fun (x : Fin r.width) (y : Fin r.height) ↦ ?_
  calc (r.reflected .vertical).get x y
      = r.get x y.rev := get_ofFn r.width r.height (fun x y ↦ r.get x y.rev) x y
    _ = (r.reflected .diagonal).get y.rev x := (get_diagonal (r := r) y.rev x).symm
    _ = ((r.reflected .diagonal).reflected .horizontal).get y x :=
        (get_horizontal (r := r.reflected .diagonal) y x).symm
    _ = (((r.reflected .diagonal).reflected .horizontal).reflected .diagonal).get x y :=
        (get_diagonal (r := (r.reflected .diagonal).reflected .horizontal) x y).symm

theorem surroundings_horizontal (xMode yMode : EdgeMode) (x : Fin r.width) (y : Fin r.height) :
    (r.reflected .horizontal).surroundings xMode yMode x y =
      (r.surroundings xMode yMode x.rev y).mirrored := by
  simp only [surroundings, Neighbourhood.mirrored, EdgeMode.before_rev, EdgeMode.after_rev,
    Neighbourhood.mk.injEq]
  exact ⟨get_horizontal .., get_horizontal .., get_horizontal .., get_horizontal ..,
    get_horizontal .., get_horizontal .., get_horizontal .., get_horizontal .., get_horizontal ..⟩

theorem surroundings_diagonal (xMode yMode : EdgeMode) (x : Fin r.height) (y : Fin r.width) :
    (r.reflected .diagonal).surroundings yMode xMode x y =
      (r.surroundings xMode yMode y x).transposed := by
  simp only [surroundings, Neighbourhood.transposed, Neighbourhood.mk.injEq]
  exact ⟨get_diagonal .., get_diagonal .., get_diagonal .., get_diagonal .., get_diagonal ..,
    get_diagonal .., get_diagonal .., get_diagonal .., get_diagonal ..⟩

variable [DecidableEq α] (s : Scaler) (xMode yMode : EdgeMode) (r : Raster α)

theorem published_horizontal :
    (r.reflected .horizontal).published s xMode yMode =
      (r.published s xMode yMode).reflected .horizontal := by
  refine ext_get rfl rfl fun (x : Fin (r.width * s.factor)) (y : Fin (r.height * s.factor)) ↦ ?_
  calc ((r.reflected .horizontal).published s xMode yMode).get x y
      = s.published ((r.reflected .horizontal).surroundings xMode yMode x.divNat y.divNat)
          y.modNat x.modNat := get_published s xMode yMode (r.reflected .horizontal) x y
    _ = s.published (r.surroundings xMode yMode x.divNat.rev y.divNat).mirrored
          y.modNat x.modNat := by
        rw [surroundings_horizontal (r := r) xMode yMode x.divNat y.divNat]
    _ = s.published (r.surroundings xMode yMode x.rev.divNat y.divNat) y.modNat x.rev.modNat := by
        rw [s.published_mirrored, divNat_rev, Fin.modNat_rev]
    _ = (r.published s xMode yMode).get x.rev y := (r.get_published s xMode yMode x.rev y).symm
    _ = ((r.published s xMode yMode).reflected .horizontal).get x y :=
        (get_horizontal (r := r.published s xMode yMode) x y).symm

theorem published_diagonal :
    (r.reflected .diagonal).published s yMode xMode =
      (r.published s xMode yMode).reflected .diagonal := by
  refine ext_get rfl rfl fun (x : Fin (r.height * s.factor)) (y : Fin (r.width * s.factor)) ↦ ?_
  calc ((r.reflected .diagonal).published s yMode xMode).get x y
      = s.published ((r.reflected .diagonal).surroundings yMode xMode x.divNat y.divNat)
          y.modNat x.modNat := get_published s yMode xMode (r.reflected .diagonal) x y
    _ = s.published (r.surroundings xMode yMode y.divNat x.divNat).transposed
          y.modNat x.modNat := by
        rw [surroundings_diagonal (r := r) xMode yMode x.divNat y.divNat]
    _ = s.published (r.surroundings xMode yMode y.divNat x.divNat) x.modNat y.modNat :=
        s.published_transposed _ x.modNat y.modNat
    _ = (r.published s xMode yMode).get y x := (r.get_published s xMode yMode y x).symm
    _ = ((r.published s xMode yMode).reflected .diagonal).get x y :=
        (get_diagonal (r := r.published s xMode yMode) x y).symm

theorem published_vertical :
    (r.reflected .vertical).published s xMode yMode =
      (r.published s xMode yMode).reflected .vertical := by
  rw [reflected_vertical, published_diagonal, published_horizontal, published_diagonal,
    ← reflected_vertical]

variable (modes : EdgeMode × EdgeMode)

theorem published_reflected (reflection : Reflection) :
    (r.reflected reflection).published s (reflection.onAxes modes).1 (reflection.onAxes modes).2 =
      (r.published s modes.1 modes.2).reflected reflection := by
  cases reflection with
  | horizontal => exact published_horizontal s modes.1 modes.2 r
  | vertical => exact published_vertical s modes.1 modes.2 r
  | diagonal => exact published_diagonal s modes.1 modes.2 r

/-- The published rules prefer no direction. -/
theorem published_foldl_reflected (reflections : List Reflection) :
    (reflections.foldl reflected r).published s (reflections.foldl Reflection.onAxes modes).1
        (reflections.foldl Reflection.onAxes modes).2 =
      reflections.foldl reflected (r.published s modes.1 modes.2) := by
  induction reflections generalizing r modes with
  | nil => rfl
  | cons reflection reflections ih =>
    rw [List.foldl_cons, List.foldl_cons, ih, published_reflected]
    rfl

omit [DecidableEq α] in
theorem positive_foldl_reflected {r : Raster α} (hr : r.size.Positive)
    (reflections : List Reflection) : (reflections.foldl reflected r).size.Positive := by
  induction reflections generalizing r with
  | nil => exact hr
  | cons reflection reflections ih =>
    apply ih
    cases reflection with
    | horizontal => exact hr
    | vertical => exact hr
    | diagonal => exact ⟨hr.height_pos, hr.width_pos⟩

end Raster

end BatchScaler

import BatchScaler.Proofs.Filter.PublishedRules
import BatchScaler.Proofs.Filter.TargetSize

namespace BatchScaler

namespace EdgeMode

variable (mode : EdgeMode) {n : ℕ}

def before (i : Fin n) : Fin n :=
  if i.val = 0 then
    match mode with
    | wrap => ⟨n - 1, Nat.sub_lt i.pos Nat.one_pos⟩
    | _ => i
  else ⟨i.val - 1, (Nat.sub_le _ _).trans_lt i.isLt⟩

def after (i : Fin n) : Fin n :=
  if h : i.val + 1 < n then ⟨i.val + 1, h⟩
  else
    match mode with
    | wrap => ⟨0, i.pos⟩
    | _ => i

/-- The position that is read from a position after none, one or two steps from the one before. -/
def near (i : Fin n) : Fin 3 → Fin n
  | 0 => mode.before i
  | 1 => i
  | 2 => mode.after i

theorem neg_one_emod {m : ℤ} (hm : 0 < m) : (-1 : ℤ) % m = m - 1 := by
  rw [← Int.add_emod_right, Int.emod_eq_of_lt (by omega) (by omega)]
  omega

theorem source_pred (h : 0 < n) (i : Fin n) : mode.source h (i.val - 1) = mode.before i := by
  apply Fin.ext
  show mode.index n (i.val - 1) = (mode.before i).val
  unfold before
  by_cases hi : i.val = 0
  · rw [if_pos hi, hi, Int.natCast_zero, zero_sub]
    cases mode with
    | constantExtension =>
      simp only [index, extend, Extend.index]
      omega
    | mirror =>
      simp only [index, extend, Extend.index, neg_one_emod (show (0 : ℤ) < 2 * n by omega)]
      rw [if_neg (by omega)]
      omega
    | wrap =>
      simp only [index, extend, Extend.index, neg_one_emod (show (0 : ℤ) < n by omega)]
      omega
  · have hindex := mode.index_of_lt ((Nat.sub_le i.val 1).trans_lt i.isLt)
    rw [if_neg hi]
    refine Eq.trans ?_ hindex
    exact congrArg (mode.index n) (by omega)

theorem source_self (h : 0 < n) (i : Fin n) : mode.source h i.val = i :=
  Fin.ext (mode.index_of_lt i.isLt)

theorem source_succ (h : 0 < n) (i : Fin n) : mode.source h (i.val + 1) = mode.after i := by
  apply Fin.ext
  show mode.index n (i.val + 1) = (mode.after i).val
  unfold after
  by_cases hi : i.val + 1 < n
  · rw [dif_pos hi]
    exact mode.index_of_lt hi
  · have hlast : (i.val + 1 : ℤ) = n := by omega
    rw [dif_neg hi, hlast]
    cases mode with
    | constantExtension =>
      simp only [index, extend, Extend.index]
      omega
    | mirror =>
      simp only [index, extend, Extend.index,
        Int.emod_eq_of_lt (Int.natCast_nonneg n) (show (n : ℤ) < 2 * n by omega)]
      rw [if_neg (by omega)]
      omega
    | wrap => simp only [index, extend, Extend.index, Int.emod_self, Int.toNat_zero]

theorem source_near (h : 0 < n) (i : Fin n) (d : Fin 3) :
    mode.source h ((i.val + d.val : ℕ) - (1 : ℕ)) = mode.near i d := by
  match d with
  | 0 =>
    refine Eq.trans ?_ (source_pred mode h i)
    exact congrArg (mode.source h) (by simp)
  | 1 =>
    refine Eq.trans ?_ (source_self mode h i)
    exact congrArg (mode.source h) (by simp)
  | 2 =>
    refine Eq.trans ?_ (source_succ mode h i)
    exact congrArg (mode.source h) (by push_cast; simp; omega)

end EdgeMode

namespace Raster

variable {α : Type} {r : Raster α}

def surroundings (r : Raster α) (xMode yMode : EdgeMode) (x : Fin r.width) (y : Fin r.height) :
    Neighbourhood α where
  a := r.get (xMode.before x) (yMode.before y)
  b := r.get x (yMode.before y)
  c := r.get (xMode.after x) (yMode.before y)
  d := r.get (xMode.before x) y
  e := r.get x y
  f := r.get (xMode.after x) y
  g := r.get (xMode.before x) (yMode.after y)
  h := r.get x (yMode.after y)
  i := r.get (xMode.after x) (yMode.after y)

section Border

variable (hw : 0 < r.width) (hh : 0 < r.height) (xMode yMode : EdgeMode)

theorem pad_of_pos {margin : ℤ} (h : 0 < margin) :
    r.pad margin xMode yMode = .ok
      ((r.padRows margin.toNat yMode.padMode hh).padColumns margin.toNat xMode.padMode hw) := by
  unfold pad
  rw [if_neg (not_lt.2 h.le), if_neg h.ne', dif_pos hh]
  exact dif_pos hw

theorem get_pad {margin : ℕ} (x : Fin (r.width + 2 * margin)) (y : Fin (r.height + 2 * margin)) :
    ((r.padRows margin yMode.padMode hh).padColumns margin xMode.padMode hw).get x y =
      r.get (xMode.source hw (x.val - margin)) (yMode.source hh (y.val - margin)) := by
  rw [← xMode.source_padMode hw, ← yMode.source_padMode hh]
  exact (get_ofFn (r.width + 2 * margin) (r.height + 2 * margin) _ x y).trans (get_ofFn ..)

theorem neighbourhood_pad (x : Fin r.width) (y : Fin r.height) :
    ((r.padRows 1 yMode.padMode hh).padColumns 1 xMode.padMode hw).neighbourhood x y =
      r.surroundings xMode yMode x y := by
  have hget (dx dy : Fin 3) (hx : x.val + dx.val < r.width + 2 * 1)
      (hy : y.val + dy.val < r.height + 2 * 1) :
      ((r.padRows 1 yMode.padMode hh).padColumns 1 xMode.padMode hw).get ⟨x + dx, hx⟩ ⟨y + dy, hy⟩ =
        r.get (xMode.near x dx) (yMode.near y dy) :=
    (get_pad hw hh xMode yMode ⟨x + dx, hx⟩ ⟨y + dy, hy⟩).trans
      (congrArg₂ r.get (xMode.source_near hw x dx) (yMode.source_near hh y dy))
  simp only [neighbourhood, surroundings, Neighbourhood.mk.injEq]
  exact ⟨hget 0 0 _ _, hget 1 0 _ _, hget 2 0 _ _, hget 0 1 _ _, hget 1 1 _ _, hget 2 1 _ _,
    hget 0 2 _ _, hget 1 2 _ _, hget 2 2 _ _⟩

end Border

theorem pixel?_ofFn {width height x y : ℕ} (f : Fin width → Fin height → α) (hx : x < width)
    (hy : y < height) : (ofFn width height f).pixel? x y = some (f ⟨x, hx⟩ ⟨y, hy⟩) :=
  (pixel?_of_lt (r := ofFn width height f) hx hy).trans (congrArg some (get_ofFn ..))

variable [DecidableEq α]

theorem enlarge_eq [Inhabited α] (s : Scaler) (padded : Raster α) :
    enlarge s padded =
      ofFn ((padded.width - 2) * s.factor) ((padded.height - 2) * s.factor) fun x y ↦
        s.subPixel (padded.neighbourhood x.divNat y.divNat) y.modNat x.modNat := by
  obtain ⟨hw, hh⟩ := sides_of_size (size_enlarge s padded)
  apply ext_pixel? hw hh
  intro x y
  by_cases hxy : x < (padded.width - 2) * s.factor ∧ y < (padded.height - 2) * s.factor
  · have hblocks : ∀ block ∈ (List.range (s.factor * s.factor)).map (subPixelBlock s padded),
        block.width = padded.width - 2 ∧ block.height = padded.height - 2 := by
      intro block hblock
      obtain ⟨index, -, rfl⟩ := List.mem_map.1 hblock
      exact ⟨rfl, rfl⟩
    have hx := (Nat.div_lt_iff_lt_mul s.factor_pos).2 hxy.1
    have hy := (Nat.div_lt_iff_lt_mul s.factor_pos).2 hxy.2
    rw [pixel?_ofFn _ hxy.1 hxy.2, enlarge,
      pixel?_assemble s.factor_pos (by rw [List.length_map, List.length_range]) hblocks,
      List.getElem?_map, List.getElem?_range (blockIndex_lt s.factor_pos x y)]
    exact pixel?_ofFn _ hx hy
  · rw [pixel?_outside (hw ▸ hh ▸ hxy)]
    exact (pixel?_outside hxy).symm

section Enlargement

variable (s : Scaler) (xMode yMode : EdgeMode)

def enlargement (r : Raster α) : Raster α :=
  ofFn (r.width * s.factor) (r.height * s.factor) fun x y ↦
    s.subPixel (r.surroundings xMode yMode x.divNat y.divNat) y.modNat x.modNat

/-- The raster that the published rule of a scaler gives: every position shows the sub-pixel that the
rule asks for there, of the pixel that lies under the position. -/
def published (r : Raster α) : Raster α :=
  ofFn (r.width * s.factor) (r.height * s.factor) fun x y ↦
    s.published (r.surroundings xMode yMode x.divNat y.divNat) y.modNat x.modNat

variable (r : Raster α) (x : Fin (r.width * s.factor)) (y : Fin (r.height * s.factor))

theorem get_enlargement :
    (r.enlargement s xMode yMode).get x y =
      s.subPixel (r.surroundings xMode yMode x.divNat y.divNat) y.modNat x.modNat :=
  get_ofFn (r.width * s.factor) (r.height * s.factor) _ x y

theorem get_published :
    (r.published s xMode yMode).get x y =
      s.published (r.surroundings xMode yMode x.divNat y.divNat) y.modNat x.modNat :=
  get_ofFn (r.width * s.factor) (r.height * s.factor) _ x y

theorem enlargement_eq_published : r.enlargement s xMode yMode = r.published s xMode yMode := by
  refine ext_get rfl rfl fun (x : Fin (r.width * s.factor)) (y : Fin (r.height * s.factor)) ↦ ?_
  calc (r.enlargement s xMode yMode).get x y
      = s.subPixel (r.surroundings xMode yMode x.divNat y.divNat) y.modNat x.modNat :=
        r.get_enlargement s xMode yMode x y
    _ = s.published (r.surroundings xMode yMode x.divNat y.divNat) y.modNat x.modNat :=
        s.subPixel_eq_published _ y.modNat x.modNat
    _ = (r.published s xMode yMode).get x y := (r.get_published s xMode yMode x y).symm

end Enlargement

theorem enlargePadded_eq [Inhabited α] (hr : r.size.Positive) (s : Scaler)
    (xMode yMode : EdgeMode) :
    r.enlargePadded s xMode yMode = .ok (r.enlargement s xMode yMode) := by
  have hw := width_pos hr
  have hh := height_pos hr
  unfold enlargePadded
  rw [pad_of_pos hw hh xMode yMode Int.one_pos]
  refine congrArg Except.ok ((enlarge_eq s _).trans ?_)
  apply congrArg (ofFn (r.width * s.factor) (r.height * s.factor))
  funext x y
  exact congrArg (s.subPixel · y.modNat x.modNat)
    (neighbourhood_pad hw hh xMode yMode x.divNat y.divNat)

theorem enlargePadded_of_empty [Inhabited α] (hr : ¬r.size.Positive) (s : Scaler)
    (xMode yMode : EdgeMode) :
    r.enlargePadded s xMode yMode =
      .error (.emptyAxis (if 0 < r.height then .columns else .rows)) := by
  have hpad : r.pad 1 xMode yMode =
      .error (.emptyAxis (if 0 < r.height then .columns else .rows)) := by
    unfold pad
    rw [if_neg (by decide), if_neg (by decide)]
    by_cases hh : 0 < r.height
    · have hw : ¬0 < r.width := fun hw ↦ hr ⟨Int.natCast_pos.2 hw, Int.natCast_pos.2 hh⟩
      rw [dif_pos hh, if_pos hh]
      exact dif_neg hw
    · rw [dif_neg hh, if_neg hh]
  unfold enlargePadded
  rw [hpad]
  rfl

end Raster

end BatchScaler

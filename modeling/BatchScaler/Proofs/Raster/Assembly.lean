import Mathlib.Data.Nat.Basic
import Mathlib.Data.Fin.Basic
import BatchScaler.Proofs.Raster.Shows
import BatchScaler.Raster.Assemble

namespace BatchScaler

def blockIndex (factor x y : ℕ) : ℕ :=
  y % factor * factor + x % factor

namespace Raster

variable {α : Type} {r r' block : Raster α} {x y i j k factor : ℕ}

def pixel? (r : Raster α) (x y : ℕ) : Option α :=
  if h : x < r.width ∧ y < r.height then some (r.get ⟨x, h.1⟩ ⟨y, h.2⟩) else none

theorem pixel?_of_lt (hx : x < r.width) (hy : y < r.height) :
    r.pixel? x y = some (r.get ⟨x, hx⟩ ⟨y, hy⟩) :=
  dif_pos ⟨hx, hy⟩

theorem pixel?_outside (h : ¬(x < r.width ∧ y < r.height)) : r.pixel? x y = none :=
  dif_neg h

theorem get_of_pixel? {c : α} (h : r.pixel? x y = some c) :
    ∃ (hx : x < r.width) (hy : y < r.height), r.get ⟨x, hx⟩ ⟨y, hy⟩ = c := by
  by_cases hinside : x < r.width ∧ y < r.height
  · obtain ⟨hx, hy⟩ := hinside
    rw [pixel?_of_lt hx hy] at h
    exact ⟨hx, hy, Option.some.inj h⟩
  · rw [pixel?_outside hinside] at h
    cases h

theorem ext_pixel? (hwidth : r.width = r'.width) (hheight : r.height = r'.height)
    (h : ∀ x y, r.pixel? x y = r'.pixel? x y) : r = r' := by
  apply ext_get hwidth hheight
  intro x y
  have hpixel := h x y
  rw [pixel?_of_lt x.isLt y.isLt, pixel?_of_lt (hwidth ▸ x.isLt) (hheight ▸ y.isLt)] at hpixel
  exact Option.some.inj hpixel

section Writing

theorem index_inj {width : ℕ} (hi : i < width) (hx : x < width) :
    j * width + i = y * width + x ↔ i = x ∧ j = y := by
  constructor
  · intro h
    have hpos : 0 < width := by omega
    have hmod := congrArg (· % width) h
    have hdiv := congrArg (· / width) h
    simp only [Nat.mul_add_mod', Nat.mod_eq_of_lt hi, Nat.mod_eq_of_lt hx] at hmod
    simp only [Nat.mul_comm _ width, Nat.mul_add_div hpos, Nat.div_eq_of_lt hi,
      Nat.div_eq_of_lt hx] at hdiv
    exact ⟨hmod, hdiv⟩
  · rintro ⟨rfl, rfl⟩
    rfl

theorem get_set (hx : x < r.width) (y : ℕ) (c : α) (i : Fin r.width)
    (j : Fin r.height) :
    (r.set x y c).get i j = if i.val = x ∧ j.val = y then c else r.get i j := by
  have hvalue : (r.set x y c).get i j =
      if y * r.width + x = j * r.width + i then c else r.get i j := by
    simp only [get, set, if_pos hx]
    rw [Array.getElem_setIfInBounds]
  rw [hvalue]
  exact if_congr (eq_comm.trans (index_inj i.isLt hx)) rfl rfl

theorem pixel?_set (hx : x < r.width) (hy : y < r.height) (c : α) (i j : ℕ) :
    (r.set x y c).pixel? i j = if i = x ∧ j = y then some c else r.pixel? i j := by
  by_cases hij : i < r.width ∧ j < r.height
  · obtain ⟨hi, hj⟩ := hij
    have hget := congrArg some (get_set hx y c ⟨i, hi⟩ ⟨j, hj⟩)
    rw [apply_ite some] at hget
    rw [pixel?_of_lt hi hj]
    exact (pixel?_of_lt (r := r.set x y c) hi hj).trans hget
  · have houtside : ¬(i = x ∧ j = y) := by
      rintro ⟨rfl, rfl⟩
      exact hij ⟨hx, hy⟩
    rw [if_neg houtside, pixel?_outside hij]
    exact pixel?_outside hij

variable {width height : ℕ} {column row : ℕ → ℕ} {value : Fin width → Fin height → α}

theorem size_set (r : Raster α) (x y : ℕ) (c : α) : (r.set x y c).size = r.size := rfl

theorem pixel?_foldl_set_of_ne {positions : List (Fin width × Fin height)} {canvas : Raster α}
    (hcolumn : ∀ x < width, column x < canvas.width) (hrow : ∀ y < height, row y < canvas.height)
    (h : ∀ p ∈ positions, ¬(i = column p.1 ∧ j = row p.2)) :
    (positions.foldl (fun canvas p ↦ canvas.set (column p.1) (row p.2) (value p.1 p.2))
      canvas).pixel? i j = canvas.pixel? i j := by
  induction positions generalizing canvas with
  | nil => rfl
  | cons p positions ih =>
    have hfirst := h p List.mem_cons_self
    rw [List.foldl_cons, ih, pixel?_set (hcolumn _ p.1.isLt) (hrow _ p.2.isLt), if_neg hfirst]
    · exact hcolumn
    · exact hrow
    · intro q hq
      exact h q (List.mem_cons_of_mem p hq)

theorem pixel?_foldl_set_of_mem {positions : List (Fin width × Fin height)} {canvas : Raster α}
    (hcolumn : ∀ x < width, column x < canvas.width) (hrow : ∀ y < height, row y < canvas.height)
    {p : Fin width × Fin height} (hp : p ∈ positions) (hi : i = column p.1) (hj : j = row p.2)
    (honly : ∀ q ∈ positions, i = column q.1 ∧ j = row q.2 → q = p) :
    (positions.foldl (fun canvas p ↦ canvas.set (column p.1) (row p.2) (value p.1 p.2))
      canvas).pixel? i j = some (value p.1 p.2) := by
  induction positions generalizing canvas with
  | nil => cases hp
  | cons q positions ih =>
    have hrest : ∀ q' ∈ positions, i = column q'.1 ∧ j = row q'.2 → q' = p := by
      intro q' hq'
      exact honly q' (List.mem_cons_of_mem q hq')
    rw [List.foldl_cons]
    by_cases hlater : p ∈ positions
    · apply ih _ _ hlater hrest
      · exact hcolumn
      · exact hrow
    · have hq : p = q := (List.mem_cons.1 hp).resolve_right hlater
      subst hq
      rw [pixel?_foldl_set_of_ne, pixel?_set (hcolumn _ p.1.isLt) (hrow _ p.2.isLt),
        if_pos ⟨hi, hj⟩]
      · exact hcolumn
      · exact hrow
      · intro q hq hsame
        exact hlater (hrest q hq hsame ▸ hq)

theorem mem_positions (p : Fin width × Fin height) : p ∈ positions width height :=
  List.mem_flatMap.2 ⟨p.2, List.mem_finRange _, List.mem_map_of_mem (List.mem_finRange p.1)⟩

end Writing

section Blocks

theorem size_scatter (factor : ℕ) (canvas : Raster α) (block : Raster α × ℕ) :
    (scatter factor canvas block).size = canvas.size := by
  unfold scatter
  induction positions block.1.width block.1.height generalizing canvas with
  | nil => rfl
  | cons position positions ih =>
    rw [List.foldl_cons, ih]
    exact size_set _ _ _ _

theorem factor_pos_of_lt (hk : k < factor * factor) : 0 < factor :=
  Nat.pos_of_mul_pos_left (Nat.zero_lt_of_lt hk)

theorem blockIndex_lt (hfactor : 0 < factor) (x y : ℕ) :
    blockIndex factor x y < factor * factor :=
  index_lt (Nat.mod_lt x hfactor) (Nat.mod_lt y hfactor)

theorem blockIndex_eq_iff (hfactor : 0 < factor) (x y k : ℕ) :
    blockIndex factor x y = k ↔
      x = blockColumn factor k (x / factor) ∧ y = blockRow factor k (y / factor) := by
  have hx := Nat.mod_lt x hfactor
  have hk := Nat.mod_lt k hfactor
  have hdivx := Nat.div_add_mod' x factor
  have hdivy := Nat.div_add_mod' y factor
  have hdivk := Nat.div_add_mod' k factor
  unfold blockIndex blockColumn blockRow
  have hinj := index_inj (j := y % factor) (y := k / factor) hx hk
  rw [hdivk] at hinj
  rw [hinj]
  omega

theorem div_of_blockColumn (hfactor : 0 < factor) (h : i = blockColumn factor k x) :
    i / factor = x := by
  rw [h, blockColumn, Nat.mul_comm, Nat.mul_add_div hfactor, Nat.div_eq_of_lt (Nat.mod_lt _ hfactor),
    Nat.add_zero]

theorem div_of_blockRow (hk : k < factor * factor) (h : j = blockRow factor k y) :
    j / factor = y := by
  have hfactor := factor_pos_of_lt hk
  rw [h, blockRow, Nat.mul_comm, Nat.mul_add_div hfactor,
    Nat.div_eq_of_lt (Nat.div_lt_of_lt_mul hk), Nat.add_zero]

theorem blockColumn_lt {width : ℕ} (hfactor : 0 < factor) (k : ℕ) (hx : x < width) :
    blockColumn factor k x < width * factor :=
  index_lt (Nat.mod_lt k hfactor) hx

theorem blockRow_lt {height : ℕ} (hk : k < factor * factor) (hy : y < height) :
    blockRow factor k y < height * factor :=
  index_lt (Nat.div_lt_of_lt_mul hk) hy

theorem pixel?_scatter {canvas : Raster α} (hwidth : canvas.width = block.width * factor)
    (hheight : canvas.height = block.height * factor) (hk : k < factor * factor) (i j : ℕ) :
    (scatter factor canvas (block, k)).pixel? i j =
      if blockIndex factor i j = k then block.pixel? (i / factor) (j / factor)
      else canvas.pixel? i j := by
  have hfactor := factor_pos_of_lt hk
  have hcolumn : ∀ x < block.width, blockColumn factor k x < canvas.width := fun x hx ↦
    hwidth ▸ blockColumn_lt hfactor k hx
  have hrow : ∀ y < block.height, blockRow factor k y < canvas.height := fun y hy ↦
    hheight ▸ blockRow_lt hk hy
  split
  · next hindex =>
    obtain ⟨hi, hj⟩ := (blockIndex_eq_iff hfactor i j k).1 hindex
    by_cases hinside : i / factor < block.width ∧ j / factor < block.height
    · rw [pixel?_of_lt hinside.1 hinside.2]
      apply pixel?_foldl_set_of_mem hcolumn hrow (mem_positions (⟨_, hinside.1⟩, ⟨_, hinside.2⟩)) hi hj
      rintro q - ⟨hi', hj'⟩
      exact Prod.ext (Fin.ext (div_of_blockColumn hfactor hi').symm)
        (Fin.ext (div_of_blockRow hk hj').symm)
    · rw [pixel?_outside hinside]
      apply pixel?_outside
      obtain ⟨hw, hh⟩ := sides_of_size (size_scatter factor canvas (block, k))
      rw [hw, hwidth, hh, hheight, ← Nat.div_lt_iff_lt_mul hfactor,
        ← Nat.div_lt_iff_lt_mul hfactor]
      exact hinside
  · next hindex =>
    apply pixel?_foldl_set_of_ne hcolumn hrow
    rintro p - ⟨hi, hj⟩
    apply hindex
    rw [blockIndex_eq_iff hfactor, div_of_blockColumn hfactor hi, div_of_blockRow hk hj]
    exact ⟨hi, hj⟩

/-- Blocks in a row, from number `first` on: a position gets its pixel from the block that it belongs
to, and keeps it where that block is not among them. -/
theorem pixel?_foldl_scatter {width height first : ℕ} {blocks : List (Raster α)}
    {canvas : Raster α} (hblocks : ∀ block ∈ blocks, block.width = width ∧ block.height = height)
    (hwidth : canvas.width = width * factor) (hheight : canvas.height = height * factor)
    (hlength : first + blocks.length ≤ factor * factor) (i j : ℕ) :
    ((blocks.zipIdx first).foldl (scatter factor) canvas).pixel? i j =
      if blockIndex factor i j < first then canvas.pixel? i j
      else (blocks[blockIndex factor i j - first]?).elim (canvas.pixel? i j)
        (·.pixel? (i / factor) (j / factor)) := by
  induction blocks generalizing canvas first with
  | nil =>
    rw [List.getElem?_nil]
    exact (ite_self _).symm
  | cons block blocks ih =>
    obtain ⟨hblock, hrest⟩ := List.forall_mem_cons.1 hblocks
    obtain ⟨hw, hh⟩ := sides_of_size (size_scatter factor canvas (block, first))
    have hfirst : first < factor * factor := by
      rw [List.length_cons] at hlength
      omega
    have hscatter := pixel?_scatter (hblock.1 ▸ hwidth) (hblock.2 ▸ hheight) hfirst i j
    rw [List.zipIdx_cons, List.foldl_cons, ih hrest (hw.trans hwidth) (hh.trans hheight)
      (by rw [List.length_cons] at hlength; omega), hscatter]
    rcases lt_trichotomy (blockIndex factor i j) first with h | h | h
    · rw [if_pos h, if_pos (h.trans (Nat.lt_succ_self _)), if_neg h.ne]
    · rw [if_neg h.not_lt, if_pos (h ▸ Nat.lt_succ_self _), if_pos h, h, Nat.sub_self]
      rfl
    · rw [if_neg (not_lt.2 h), if_neg h.not_gt, if_neg h.ne',
        show blockIndex factor i j - first = blockIndex factor i j - (first + 1) + 1 by omega,
        List.getElem?_cons_succ]

/-- All blocks, one for each sub-pixel: every position shows the block that it belongs to, whatever
the canvas held before. -/
theorem pixel?_foldl_scatter_zipIdx {width height : ℕ} {blocks : List (Raster α)}
    {canvas : Raster α} (hfactor : 0 < factor) (hlength : blocks.length = factor * factor)
    (hblocks : ∀ block ∈ blocks, block.width = width ∧ block.height = height)
    (hwidth : canvas.width = width * factor) (hheight : canvas.height = height * factor)
    (i j : ℕ) :
    (blocks.zipIdx.foldl (scatter factor) canvas).pixel? i j =
      (blocks[blockIndex factor i j]?).bind (·.pixel? (i / factor) (j / factor)) := by
  have hget := List.getElem?_eq_getElem (hlength.symm ▸ blockIndex_lt hfactor i j)
  rw [pixel?_foldl_scatter hblocks hwidth hheight (by omega), if_neg (Nat.not_lt_zero _),
    Nat.sub_zero, hget]
  rfl

theorem size_foldl_scatter (factor : ℕ) (blocks : List (Raster α × ℕ)) (canvas : Raster α) :
    (blocks.foldl (scatter factor) canvas).size = canvas.size := by
  induction blocks generalizing canvas with
  | nil => rfl
  | cons block blocks ih => rw [List.foldl_cons, ih, size_scatter]

theorem size_assemble (fill : α) (factor : ℕ) (block : Raster α) (blocks : List (Raster α)) :
    (assemble fill factor (block :: blocks)).size =
      ⟨block.width * factor, block.height * factor⟩ := by
  unfold assemble
  rw [size_foldl_scatter]
  exact congrArg₂ Size.mk (Int.natCast_mul _ _) (Int.natCast_mul _ _)

theorem pixel?_assemble {width height : ℕ} {blocks : List (Raster α)}
    (hfactor : 0 < factor) (hlength : blocks.length = factor * factor)
    (hblocks : ∀ block ∈ blocks, block.width = width ∧ block.height = height) (fill : α)
    (i j : ℕ) :
    (assemble fill factor blocks).pixel? i j =
      (blocks[blockIndex factor i j]?).bind (·.pixel? (i / factor) (j / factor)) := by
  cases blocks with
  | nil =>
    have hindex := blockIndex_lt hfactor i j
    rw [← hlength] at hindex
    cases hindex
  | cons block rest =>
    obtain ⟨rfl, rfl⟩ := (List.forall_mem_cons.1 hblocks).1
    exact pixel?_foldl_scatter_zipIdx hfactor hlength hblocks rfl rfl i j

end Blocks

end Raster

end BatchScaler

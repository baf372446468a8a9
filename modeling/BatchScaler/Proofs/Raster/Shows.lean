import Mathlib.Order.Basic
import BatchScaler.Filter.Step

namespace BatchScaler.Raster

variable {α : Type} {r r' r'' : Raster α} {column row column' row' : ℕ → ℕ}

theorem sides_of_size {width height : ℕ} (h : r.size = ⟨width, height⟩) :
    r.width = width ∧ r.height = height :=
  ⟨Int.ofNat_inj.1 (congrArg Size.width h), Int.ofNat_inj.1 (congrArg Size.height h)⟩

/-- Every pixel of the second raster is a pixel of the first: position `(x, y)` shows position
`(column x, row y)`. -/
structure Shows (r r' : Raster α) (column row : ℕ → ℕ) : Prop where
  column_lt : ∀ x < r'.width, column x < r.width
  row_lt : ∀ y < r'.height, row y < r.height
  get_eq : ∀ (x : Fin r'.width) (y : Fin r'.height),
    r'.get x y = r.get ⟨column x, column_lt x x.isLt⟩ ⟨row y, row_lt y y.isLt⟩

namespace Shows

theorem refl (r : Raster α) : r.Shows r id id :=
  ⟨fun _ h ↦ h, fun _ h ↦ h, fun _ _ ↦ rfl⟩

theorem trans (h : r.Shows r' column row) (h' : r'.Shows r'' column' row') :
    r.Shows r'' (column ∘ column') (row ∘ row') where
  column_lt x hx := h.column_lt _ (h'.column_lt x hx)
  row_lt y hy := h.row_lt _ (h'.row_lt y hy)
  get_eq x y := by rw [h'.get_eq, h.get_eq]; rfl

/-- Only positions on the raster that is shown matter. -/
theorem congr (h : r.Shows r' column row) (hcolumn : ∀ x < r'.width, column x = column' x)
    (hrow : ∀ y < r'.height, row y = row' y) : r.Shows r' column' row' where
  column_lt x hx := hcolumn x hx ▸ h.column_lt x hx
  row_lt y hy := hrow y hy ▸ h.row_lt y hy
  get_eq x y := by
    rw [h.get_eq]
    congr 1
    · exact Fin.ext (hcolumn x x.isLt)
    · exact Fin.ext (hrow y y.isLt)

/-- The size and the index maps say all about a raster that shows another one. -/
theorem unique (h : r.Shows r' column row) (h' : r.Shows r'' column row)
    (hwidth : r'.width = r''.width) (hheight : r'.height = r''.height) : r' = r'' := by
  refine ext_get hwidth hheight fun x y ↦ ?_
  rw [h.get_eq, h'.get_eq]
  rfl

end Shows

theorem shows_remap {width height : ℕ} {c : Fin width → Fin r.width}
    {d : Fin height → Fin r.height} (hcolumn : ∀ x : Fin width, column x = c x)
    (hrow : ∀ y : Fin height, row y = d y) : r.Shows (r.remap width height c d) column row where
  column_lt x hx := hcolumn ⟨x, hx⟩ ▸ (c ⟨x, hx⟩).isLt
  row_lt y hy := hrow ⟨y, hy⟩ ▸ (d ⟨y, hy⟩).isLt
  get_eq x y := by
    refine (get_ofFn width height (fun x y ↦ r.get (c x) (d y)) x y).trans ?_
    congr 1
    · exact Fin.ext (hcolumn x).symm
    · exact Fin.ext (hrow y).symm

end BatchScaler.Raster


namespace BatchScaler

structure Raster (α : Type) where
  width : Nat
  height : Nat
  pixels : Array α
  size_pixels : pixels.size = height * width
  deriving Repr

namespace Raster

variable {α β : Type}

theorem index_lt {width height x y : Nat} (hx : x < width) (hy : y < height) :
    y * width + x < height * width := by
  have := Nat.mul_le_mul_right width (Nat.succ_le_of_lt hy)
  rw [Nat.succ_mul] at this
  omega

def get (r : Raster α) (x : Fin r.width) (y : Fin r.height) : α :=
  have : y.val * r.width + x.val < r.pixels.size := by
    rw [r.size_pixels]; exact index_lt x.isLt y.isLt
  r.pixels[y.val * r.width + x.val]

def ofFn (width height : Nat) (f : Fin width → Fin height → α) : Raster α where
  width := width
  height := height
  pixels := Array.ofFn fun k : Fin (height * width) =>
    have positive : 0 < width := Nat.pos_of_ne_zero fun h => by
      subst h; exact absurd k.isLt (by simp)
    f ⟨k.val % width, Nat.mod_lt _ positive⟩
      ⟨k.val / width, Nat.div_lt_of_lt_mul (Nat.mul_comm height width ▸ k.isLt)⟩
  size_pixels := Array.size_ofFn

@[simp] theorem width_ofFn (w h : Nat) (f : Fin w → Fin h → α) : (ofFn w h f).width = w := rfl

@[simp] theorem height_ofFn (w h : Nat) (f : Fin w → Fin h → α) : (ofFn w h f).height = h := rfl

@[simp] theorem get_ofFn (w h : Nat) (f : Fin w → Fin h → α) (x : Fin w) (y : Fin h) :
    (ofFn w h f).get x y = f x y := by
  have hw : 0 < w := Nat.lt_of_le_of_lt (Nat.zero_le _) x.isLt
  have hm : (y.val * w + x.val) % w = x.val := by
    rw [Nat.mul_add_mod', Nat.mod_eq_of_lt x.isLt]
  have hd : (y.val * w + x.val) / w = y.val := by
    rw [Nat.mul_comm, Nat.mul_add_div hw, Nat.div_eq_of_lt x.isLt, Nat.add_zero]
  simp only [get, ofFn, Array.getElem_ofFn]
  congr 1
  · exact Fin.ext hm
  · exact Fin.ext hd

theorem ext_pixels {r s : Raster α} (hw : r.width = s.width) (hh : r.height = s.height)
    (hp : r.pixels = s.pixels) : r = s := by
  cases r; cases s
  simp only at hw hh hp
  subst hw hh hp
  rfl

theorem getElem_pixels (r : Raster α) (k : Nat) (h : k < r.pixels.size) (hw : 0 < r.width) :
    r.pixels[k] = r.get ⟨k % r.width, Nat.mod_lt _ hw⟩
      ⟨k / r.width, Nat.div_lt_of_lt_mul (by
        rw [Nat.mul_comm, ← r.size_pixels]; exact h)⟩ := by
  simp only [get]
  congr 1
  exact (Nat.div_add_mod' k r.width).symm

/-- Rasters of one size with the same pixels are equal. -/
theorem ext_get {r s : Raster α} (hw : r.width = s.width) (hh : r.height = s.height)
    (hp : ∀ (x : Fin r.width) (y : Fin r.height), r.get x y = s.get (x.cast hw) (y.cast hh)) :
    r = s := by
  refine ext_pixels hw hh (Array.ext (by rw [r.size_pixels, s.size_pixels, hw, hh]) ?_)
  intro k hr hs
  have positive : 0 < r.width := Nat.pos_of_ne_zero fun h => by
    rw [r.size_pixels, h] at hr; exact absurd hr (by simp)
  rw [getElem_pixels r k hr positive, getElem_pixels s k hs (hw ▸ positive), hp]
  congr 1
  · exact Fin.ext (by simp [hw])
  · exact Fin.ext (by simp [hw])

@[simp] theorem ofFn_get (r : Raster α) : ofFn r.width r.height r.get = r :=
  ext_get rfl rfl fun x y => get_ofFn _ _ _ x y

def map (f : α → β) (r : Raster α) : Raster β :=
  ofFn r.width r.height fun x y => f (r.get x y)

/-- The raster of the given size that shows, at each position, the pixel of `r` at the mapped
column and row. -/
def remap (r : Raster α) (width height : Nat) (column : Fin width → Fin r.width)
    (row : Fin height → Fin r.height) : Raster α :=
  ofFn width height fun x y => r.get (column x) (row y)

def IsUniform (r : Raster α) (c : α) : Prop :=
  ∀ x y, r.get x y = c

end Raster

end BatchScaler

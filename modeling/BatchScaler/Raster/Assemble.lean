import BatchScaler.Raster.Basic

namespace BatchScaler

def blockColumn (factor index x : Nat) : Nat :=
  x * factor + index % factor

def blockRow (factor index y : Nat) : Nat :=
  y * factor + index / factor

namespace Raster

variable {α : Type}

/-- The raster with one pixel replaced; a position beyond the edge is ignored. -/
def set (r : Raster α) (x y : Nat) (c : α) : Raster α where
  width := r.width
  height := r.height
  pixels := if x < r.width then r.pixels.setIfInBounds (y * r.width + x) c else r.pixels
  size_pixels := by split <;> simp [r.size_pixels]

def positions (width height : Nat) : List (Fin width × Fin height) :=
  (List.finRange height).flatMap fun y => (List.finRange width).map fun x => (x, y)

def scatter (factor : Nat) (canvas : Raster α) (block : Raster α × Nat) : Raster α :=
  (positions block.1.width block.1.height).foldl
    (fun canvas (x, y) => canvas.set (blockColumn factor block.2 x) (blockRow factor block.2 y)
      (block.1.get x y)) canvas

def blank (width height : Nat) (c : α) : Raster α :=
  ofFn width height fun _ _ => c

/-- Writes blocks of one shape, in order, to a canvas that first holds `fill` everywhere. -/
def assemble (fill : α) (factor : Nat) (blocks : List (Raster α)) : Raster α :=
  match blocks with
  | [] => blank 0 0 fill
  | first :: _ =>
    blocks.zipIdx.foldl (scatter factor)
      (blank (first.width * factor) (first.height * factor) fill)

end Raster

end BatchScaler

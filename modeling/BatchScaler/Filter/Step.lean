import BatchScaler.Raster.Edge
import BatchScaler.Size.Scale

namespace BatchScaler

inductive Kernel
  | nearest
  | linear
  | cubic
  | mitchell
  | lanczos2
  | lanczos3
  deriving DecidableEq, Repr

def Kernel.name : Kernel → String
  | .nearest => "nearest"
  | .linear => "linear"
  | .cubic => "cubic"
  | .mitchell => "mitchell"
  | .lanczos2 => "lanczos2"
  | .lanczos3 => "lanczos3"

inductive Step
  | embed (x y width height : Int) (mode : EdgeMode)
  | crop (x y width height : Int)
  | resize (horizontal vertical : Scale) (kernel : Kernel)
  deriving DecidableEq, Repr

/-- The colours that the engine computes for kernels that mix pixels: the colour at an output
position, given the colour of the nearest source pixel there. -/
structure Interpolator (α : Type) where
  colour : Kernel → Scale → Scale → Raster α → (x y : Nat) → (nearest : α) → α

namespace Interpolator

variable {α : Type}

def nearestPixel : Interpolator α :=
  ⟨fun _ _ _ _ _ _ nearest => nearest⟩

/-- What is asked of every kernel: one colour stays one colour, and a resize by exactly 1 on both
axes changes nothing. -/
structure Lawful (e : Interpolator α) : Prop where
  uniform : ∀ kernel horizontal vertical (r : Raster α) (c : α) (x y : Nat),
    r.IsUniform c → e.colour kernel horizontal vertical r x y c = c
  identity : ∀ kernel (horizontal vertical : Scale) (r : Raster α) (x y : Nat) (c : α),
    horizontal.target = horizontal.source → vertical.target = vertical.source →
      e.colour kernel horizontal vertical r x y c = c

theorem nearestPixel_lawful : (nearestPixel : Interpolator α).Lawful :=
  ⟨fun _ _ _ _ _ _ _ _ => rfl, fun _ _ _ _ _ _ _ _ _ => rfl⟩

end Interpolator

/-- The greatest factor that the engine resizes by. A greater one is all that it refuses here: limits
on the sides of an image, which engines have too, are left out. -/
def maxFactor : Rat := 10000000

namespace Scale

def resizedSize (horizontal vertical : Scale) (size : Size) : Except Fault Size := do
  let width ← horizontal.resizedSide size.width
  let height ← vertical.resizedSide size.height
  return ⟨width, height⟩

def engineSize (horizontal vertical : Scale) (size : Size) : Except Fault Size :=
  if maxFactor < horizontal.factor ∨ maxFactor < vertical.factor then .error .engine
  else resizedSize horizontal vertical size

end Scale

namespace Raster

variable {α : Type} (r : Raster α)

def size : Size :=
  ⟨r.width, r.height⟩

def nearestSource (s : Scale) {n : Nat} (h : 0 < n) (i : Nat) : Fin n :=
  ⟨min (s.nearestIndex i) (n - 1), by omega⟩

def resample (e : Interpolator α) (kernel : Kernel) (horizontal vertical : Scale)
    (width height : Nat) (hw : 0 < r.width) (hh : 0 < r.height) : Raster α :=
  ofFn width height fun x y =>
    let nearest := r.get (nearestSource horizontal hw x) (nearestSource vertical hh y)
    match kernel with
    | .nearest => nearest
    | kernel => e.colour kernel horizontal vertical r x y nearest

end Raster

namespace Step

/-- Carries out a request. A canvas needs an image to fill it, and no request for less than one
pixel, or for pixels beyond the edge, is met. -/
def run {α : Type} (e : Interpolator α) (r : Raster α) : Step → Except Fault (Raster α)
  | embed x y width height mode =>
    if h : 0 < r.width ∧ 0 < r.height ∧ 0 < width ∧ 0 < height then
      .ok (r.view (-x) (-y) width.toNat height.toNat mode.extend h.1 h.2.1)
    else .error .engine
  | crop x y width height =>
    if h : 0 ≤ x ∧ 0 < width ∧ x + width ≤ r.width ∧ 0 ≤ y ∧ 0 < height ∧ y + height ≤ r.height then
      .ok (r.remap width.toNat height.toNat (fun i => ⟨x.toNat + i, by omega⟩)
        (fun j => ⟨y.toNat + j, by omega⟩))
    else .error .engine
  | resize horizontal vertical kernel =>
    if h : 0 < r.width ∧ 0 < r.height then do
      let size ← Scale.engineSize horizontal vertical r.size
      return r.resample e kernel horizontal vertical size.width.toNat size.height.toNat h.1 h.2
    else .error .engine

def runAll {α : Type} (e : Interpolator α) (r : Raster α) (steps : List Step) :
    Except Fault (Raster α) :=
  steps.foldlM (run e) r

def resultSize (resized : Scale → Scale → Size → Except Fault Size) (size : Size) :
    Step → Except Fault Size
  | embed _ _ width height _ => .ok ⟨width, height⟩
  | crop _ _ width height => .ok ⟨width, height⟩
  | resize horizontal vertical _ => resized horizontal vertical size

def finalSize (resized : Scale → Scale → Size → Except Fault Size) (size : Size)
    (steps : List Step) : Except Fault Size :=
  steps.foldlM (resultSize resized) size

end Step

end BatchScaler

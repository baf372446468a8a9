import BatchScaler.Filter.Fit
import BatchScaler.Raster.Assemble

namespace BatchScaler

structure Neighbourhood (α : Type) where
  a : α
  b : α
  c : α
  d : α
  e : α
  f : α
  g : α
  h : α
  i : α

namespace Neighbourhood

variable {α : Type} [DecidableEq α] (n : Neighbourhood α)

/-- Whether `d = b` and neither of the two equals its other side neighbour. -/
def topLeft : Bool := n.d == n.b && !(n.b == n.f) && !(n.d == n.h)

def topRight : Bool := n.b == n.f && !(n.d == n.b) && !(n.h == n.f)

def bottomLeft : Bool := n.d == n.h && !(n.d == n.b) && !(n.h == n.f)

def bottomRight : Bool := n.h == n.f && !(n.d == n.h) && !(n.b == n.f)

def pick (test : Bool) (value : α) : α := if test then value else n.e

def scale2x : List α :=
  [n.pick n.topLeft n.d, n.pick n.topRight n.f,
    n.pick n.bottomLeft n.d, n.pick n.bottomRight n.f]

def scale3x : List α :=
  [n.pick n.topLeft n.d,
    n.pick ((n.topLeft && !(n.e == n.c)) || (n.topRight && !(n.e == n.a))) n.b,
    n.pick n.topRight n.f,
    n.pick ((n.topLeft && !(n.e == n.g)) || (n.bottomLeft && !(n.e == n.a))) n.d,
    n.e,
    n.pick ((n.topRight && !(n.e == n.i)) || (n.bottomRight && !(n.e == n.c))) n.f,
    n.pick n.bottomLeft n.d,
    n.pick ((n.bottomRight && !(n.e == n.g)) || (n.bottomLeft && !(n.e == n.i))) n.h,
    n.pick n.bottomRight n.f]

def eagle2x : List α :=
  [n.pick (n.a == n.b && n.a == n.d) n.a, n.pick (n.c == n.b && n.c == n.f) n.c,
    n.pick (n.g == n.d && n.g == n.h) n.g, n.pick (n.i == n.f && n.i == n.h) n.i]

end Neighbourhood

inductive Scaler
  | scale2x
  | scale3x
  | eagle2x
  deriving DecidableEq, Repr

namespace Scaler

def factor : Scaler → Nat
  | scale2x => 2
  | scale3x => 3
  | eagle2x => 2

def subPixels {α : Type} [DecidableEq α] (n : Neighbourhood α) : Scaler → List α
  | scale2x => n.scale2x
  | scale3x => n.scale3x
  | eagle2x => n.eagle2x

end Scaler

namespace Raster

variable {α : Type}

def neighbourhood (r : Raster α) (x : Fin (r.width - 2)) (y : Fin (r.height - 2)) :
    Neighbourhood α :=
  let at' (dx : Fin 3) (dy : Fin 3) : α := r.get ⟨x + dx, by omega⟩ ⟨y + dy, by omega⟩
  ⟨at' 0 0, at' 1 0, at' 2 0, at' 0 1, at' 1 1, at' 2 1, at' 0 2, at' 1 2, at' 2 2⟩

variable [DecidableEq α]

def subPixelBlock (s : Scaler) (padded : Raster α) (index : Nat) : Raster α :=
  ofFn (padded.width - 2) (padded.height - 2) fun x y =>
    let n := padded.neighbourhood x y
    (s.subPixels n).getD index n.e

def enlarge [Inhabited α] (s : Scaler) (padded : Raster α) : Raster α :=
  assemble default s.factor
    ((List.range (s.factor * s.factor)).map (subPixelBlock s padded))

def enlargePadded [Inhabited α] (s : Scaler) (xMode yMode : EdgeMode) (r : Raster α) :
    Except Fault (Raster α) := do
  let padded ← r.pad 1 xMode yMode
  return enlarge s padded

def naturalSize (s : Scaler) (r : Raster α) : Size :=
  ⟨r.width * s.factor, r.height * s.factor⟩

/-- The raster enlarged by a scaler and, where another size was asked for, resized to that size with
the nearest kernel. -/
def enlargeTo [Inhabited α] (e : Interpolator α) (s : Scaler) (target : Size)
    (xMode yMode : EdgeMode) (r : Raster α) : Except Fault (Raster α) := do
  let natural := r.naturalSize s
  let enlarged ← r.enlargePadded s xMode yMode
  if target = natural then return enlarged
  else
    let horizontal ← Scale.between target.width natural.width
    let vertical ← Scale.between target.height natural.height
    let resized ← (Step.resize horizontal vertical .nearest).run e enlarged
    resized.fitExact target 0 0

end Raster

end BatchScaler

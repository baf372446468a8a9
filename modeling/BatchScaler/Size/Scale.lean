import BatchScaler.Size.Target

namespace BatchScaler

/-- The factor `target / source`; `factor` is the quotient in double precision. -/
structure Scale where
  target : Nat
  source : Nat
  factor : Rat
  deriving DecidableEq, Repr

namespace Scale

def between (target source : Int) : Except Fault Scale := do
  let factor ← quotient target source
  return ⟨target.toNat, source.toNat, factor⟩

variable (s : Scale)

/-- The length of a resized side: product and sum are rounded to double precision each, then the
fraction is dropped. -/
def resizedSide (side : Int) : Except Fault Int := do
  let length ← toDouble side
  let product ← toDouble (length * s.factor)
  let shifted ← toDouble (product + 1 / 2)
  return shifted.floor

def resizedMargin (margin : Nat) : Except Fault Int := do
  let product ← toDouble (margin * s.factor)
  return roundHalfEven product

/-- The source position that a nearest-pixel resize shows at an output position. Enlarging takes
the pixel under the position's lower edge, anything else the pixel under its centre. -/
def nearestIndex (i : Nat) : Nat :=
  if s.source < s.target then i * s.source / s.target
  else (2 * i + 1) * s.source / (2 * s.target)

end Scale

end BatchScaler

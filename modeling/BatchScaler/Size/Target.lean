import BatchScaler.Fault
import BatchScaler.Number.Rounding

namespace BatchScaler

structure Size where
  width : Int
  height : Int
  deriving DecidableEq, Repr

def toDouble (q : Rat) : Except Fault Rat :=
  match binary64.round? q with
  | some value => .ok value
  | none => .error .overflow

def quotient (num den : Int) : Except Fault Rat :=
  if den = 0 then .error .divisionByZero else toDouble ((num : Rat) / (den : Rat))

def proportionalSide (side given other : Int) : Except Fault Int := do
  let q ← quotient (side * given) other
  return max 1 (roundHalfEven q)

/-- The size to produce when `requested` is asked of a filter with the given natural size. An axis
that is 0 or less is left open. -/
def resolveSize (natural requested : Size) : Except Fault Size :=
  if requested.width ≤ 0 ∧ requested.height ≤ 0 then .ok natural
  else if requested.width ≤ 0 then do
    let width ← proportionalSide natural.width requested.height natural.height
    return ⟨width, requested.height⟩
  else if requested.height ≤ 0 then do
    let height ← proportionalSide natural.height requested.width natural.width
    return ⟨requested.width, height⟩
  else .ok requested

end BatchScaler


namespace BatchScaler

def magnitude (q : Rat) : Rat :=
  if q < 0 then -q else q

def roundHalfEven (q : Rat) : Int :=
  let low := q.floor
  let rest := q - low
  if rest < 1 / 2 then low
  else if 1 / 2 < rest then low + 1
  else if low % 2 = 0 then low
  else low + 1

def binaryExponent (q : Rat) : Int :=
  let k : Int := (Nat.log2 q.num.natAbs : Int) - (Nat.log2 q.den : Int)
  if (2 : Rat) ^ k ≤ magnitude q then k else k - 1

/-- A binary floating-point format: the significant bits of its values, the exponent of its least
positive value, and the exponent that bounds its values. -/
structure BinaryFormat where
  precision : Nat
  minExponent : Int
  maxExponent : Int
  deriving DecidableEq, Repr

def binary64 : BinaryFormat := ⟨53, -1074, 1024⟩

def binary32 : BinaryFormat := ⟨24, -149, 128⟩

namespace BinaryFormat

variable (format : BinaryFormat)

def lastPlace (q : Rat) : Int :=
  max (binaryExponent q - format.precision + 1) format.minExponent

/-- The value nearest to a rational, if the format had no greatest value. -/
def nearest (q : Rat) : Rat :=
  if q = 0 then 0
  else
    let unit := (2 : Rat) ^ format.lastPlace q
    roundHalfEven (q / unit) * unit

def round? (q : Rat) : Option Rat :=
  let value := format.nearest q
  if magnitude value < (2 : Rat) ^ format.maxExponent then some value else none

end BinaryFormat

end BatchScaler

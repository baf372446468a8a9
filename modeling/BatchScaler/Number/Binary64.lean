import BatchScaler.Number.Rounding

namespace BatchScaler

/-- A double-precision number. The size of a finite one is a value of the format `binary64`. -/
inductive Binary64
  | finite (negative : Bool) (size : Rat)
  | infinite (negative : Bool)
  | notANumber
  deriving DecidableEq, Repr

def decimalLength (n : Nat) : Nat :=
  (Nat.toDigits 10 n).length

namespace Binary64

def ofSize (negative : Bool) (size : Rat) : Binary64 :=
  match binary64.round? size with
  | some value => .finite negative value
  | none => .infinite negative

/-- The number nearest to `digits * 10 ^ exponent`. Decimals that are certain to overflow or to
vanish are not multiplied out. -/
def ofDecimal (negative : Bool) (digits : Nat) (exponent : Int) : Binary64 :=
  let top := (decimalLength digits : Int) + exponent
  if digits = 0 ∨ top < -400 then .finite negative 0
  else if 400 < top then .infinite negative
  else ofSize negative (digits * (10 : Rat) ^ exponent)

/-- The integer that is left when the fraction is dropped; an infinity has none, nor has what is no
number. -/
def truncate? : Binary64 → Option Int
  | .finite negative size => some (if negative then -size.floor else size.floor)
  | .infinite _ => none
  | .notANumber => none

def sizeBits (size : Rat) : Nat :=
  if size = 0 then 0
  else
    let exponent := binaryExponent size
    if exponent < -1022 then (size / (2 : Rat) ^ (-1074 : Int)).floor.toNat
    else
      let fraction := (size / (2 : Rat) ^ (exponent - 52)).floor.toNat - Nat.pow 2 52
      (exponent + 1023).toNat * Nat.pow 2 52 + fraction

def toBits : Binary64 → Nat
  | .finite negative size => (if negative then Nat.pow 2 63 else 0) + sizeBits size
  | .infinite negative => (if negative then Nat.pow 2 63 else 0) + 0x7FF0000000000000
  | .notANumber => 0x7FF8000000000000

end Binary64

end BatchScaler

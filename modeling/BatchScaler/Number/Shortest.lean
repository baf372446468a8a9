import BatchScaler.Number.Binary64

namespace BatchScaler.Shortest

structure Decimal where
  digits : Nat
  exponent : Int
  deriving DecidableEq, Repr

def Decimal.value (d : Decimal) : Rat :=
  d.digits * (10 : Rat) ^ d.exponent

def Decimal.next (count : Nat) (d : Decimal) : Decimal :=
  if d.digits + 1 = Nat.pow 10 count then ⟨1, d.exponent + count⟩
  else ⟨d.digits + 1, d.exponent⟩

def decimalExponent (q : Rat) : Int :=
  if 1 ≤ q then (decimalLength q.floor.toNat : Int) - 1
  else -(decimalLength ((1 / q).ceil.toNat - 1) : Int)

def readsAs (size : Rat) (d : Decimal) : Bool :=
  binary64.round? d.value == some size

/-- Of the two decimals with `count` digits around a positive number, the one that is read as the
number; of two such the nearer, and of two equally near the even one. -/
def onGrid (size : Rat) (count : Nat) : Option Decimal :=
  let exponent := decimalExponent size - count + 1
  let low : Decimal := ⟨(size / (10 : Rat) ^ exponent).floor.toNat, exponent⟩
  let high := low.next count
  match readsAs size low, readsAs size high with
  | true, false => some low
  | false, true => some high
  | false, false => none
  | true, true =>
    let below := size - low.value
    let above := high.value - size
    if below < above then some low
    else if above < below then some high
    else if low.digits % 2 = 0 then some low
    else some high

def decimal (size : Rat) : Decimal :=
  ((List.range' 1 17).findSome? (onGrid size)).getD ⟨0, 0⟩

end BatchScaler.Shortest

import BatchScaler.Number.Numeral

namespace BatchScaler

structure FilterSpec where
  name : String
  repeats : Nat := 1
  deriving DecidableEq, Repr

namespace FilterSpec

def splitCount? (cs : List Char) : Option (List Char × List Char) :=
  match cs.takeWhile (· != '('), cs.dropWhile (· != '(') with
  | name, '(' :: inner =>
    if name ≠ [] ∧ inner.getLast? = some ')' then some (name, inner.dropLast) else none
  | _, _ => none

/-- A repeat count is at least one; anything else in the parentheses counts as one. -/
def countOf : Option Int → Nat
  | some count => if count < 1 then 1 else count.toNat
  | none => 1

/-- Reads a method operand. No text is refused, but a count may be too long to be read. -/
def parse (token : String) : Except Fault FilterSpec :=
  let operand := Text.trimChars token.toList
  match splitCount? operand with
  | none => .ok ⟨String.ofList operand, 1⟩
  | some (name, count) => do
    let count? ← Numeral.parse (String.ofList count)
    return ⟨String.ofList name, countOf count?⟩

end FilterSpec

end BatchScaler

import BatchScaler.Number.Numeral

namespace BatchScaler

structure Dimensions where
  width : Nat
  height : Nat
  deriving DecidableEq, Repr

namespace Dimensions

inductive Rejection
  | malformed (operand : String)
  | negative (operand : String)
  deriving DecidableEq, Repr

def Rejection.message : Rejection → String
  | .malformed operand => "invalid dimensions: " ++ Text.quoted operand
  | .negative operand => "negative dimensions: " ++ Text.quoted operand

def isCross (c : Char) : Bool :=
  c == 'x' || c == 'X'

/-- The one character whose lower case has two characters. -/
def dottedCapitalI : Char := '\u0130'

/-- The place of the separator. Places are counted in lower case. -/
def crossPlace? (cs : List Char) : Option Nat :=
  let before := cs.takeWhile (!isCross ·)
  if cs.any isCross then some (before.length + before.count dottedCapitalI) else none

/-- Reads a trimmed size operand. Both numerals are read before either is judged. -/
def parseTrimmed (operand : String) : Except Fault (Except Rejection Dimensions) :=
  let cs := operand.toList
  match crossPlace? cs with
  | none => .ok (.error (.malformed operand))
  | some 0 => .ok (.error (.malformed operand))
  | some place => do
    let width? ← Numeral.parse (String.ofList (cs.take place))
    let height? ← Numeral.parse (String.ofList (cs.drop (place + 1)))
    match width?, height? with
    | some width, some height =>
      if width < 0 ∨ height < 0 then return .error (.negative operand)
      else return .ok ⟨width.toNat, height.toNat⟩
    | _, _ => return .error (.malformed operand)

def parse (token : String) : Except Fault (Except Rejection Dimensions) :=
  parseTrimmed (Text.trim token)

end Dimensions

end BatchScaler

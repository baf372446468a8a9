import BatchScaler.Number.Shortest
import BatchScaler.Text.Quoted

namespace BatchScaler

abbrev Points : Type :=
  List Nat

namespace Points

def ofString (text : String) : Points :=
  text.toList.map Char.toNat

def isScalar (point : Nat) : Bool :=
  decide point.isValidChar

def toChars? (points : Points) : Option (List Char) :=
  if points.all isScalar then some (points.map Char.ofNat) else none

def toText (points : Points) : String :=
  String.ofList (points.map fun point => if isScalar point then Char.ofNat point else '\uFFFD')

end Points

inductive Value
  | null
  | boolean (b : Bool)
  | integer (n : Int)
  | real (x : Binary64)
  | text (points : Points)
  | list (items : List Value)
  | object (members : List (Points × Value))

def setMember (key : Points) (value : Value) : List (Points × Value) → List (Points × Value)
  | [] => [(key, value)]
  | (k, v) :: rest => if k = key then (k, value) :: rest else (k, v) :: setMember key value rest

/-- How a number's digits are laid out. From ten to the power `least` up to, but not including, ten
to the power `bound`, numbers are written without an exponent. -/
structure RealFormat where
  least : Int
  bound : Int
  exponentDigits : Nat
  deriving DecidableEq, Repr

namespace RealFormat

def message : RealFormat := ⟨-4, 16, 2⟩

variable (f : RealFormat)

def exponent (e : Int) : String :=
  let digits := toString e.natAbs
  (if e < 0 then "-" else "+") ++
    String.ofList (List.replicate (f.exponentDigits - digits.length) '0') ++ digits

def positional (digits : List Char) (point : Int) : String :=
  if point ≤ 0 then
    "0." ++ String.ofList (List.replicate (-point).toNat '0' ++ digits)
  else
    let whole := digits.take point.toNat ++ List.replicate (point.toNat - digits.length) '0'
    let fraction := digits.drop point.toNat
    String.ofList whole ++ "." ++ (if fraction.isEmpty then "0" else String.ofList fraction)

def scientific (digits : List Char) (point : Int) : String :=
  String.ofList (digits.take 1) ++
    (if digits.length ≤ 1 then "" else "." ++ String.ofList (digits.drop 1)) ++
    "e" ++ f.exponent (point - 1)

def size (x : Rat) : String :=
  let d := Shortest.decimal x
  let digits := Nat.toDigits 10 d.digits
  let point := digits.length + d.exponent
  if f.least < point ∧ point ≤ f.bound then positional digits point else f.scientific digits point

def render : Binary64 → String
  | .finite negative x =>
    (if negative then "-" else "") ++ (if x = 0 then "0.0" else f.size x)
  | .infinite negative => if negative then "-inf" else "inf"
  | .notANumber => "nan"

end RealFormat

namespace Value

mutual

def shown : Value → String
  | null => "None"
  | boolean b => if b then "True" else "False"
  | integer n => toString n
  | real x => RealFormat.message.render x
  | text points => Text.quotedPoints points
  | list items => "[" ++ ", ".intercalate (shownItems items) ++ "]"
  | object members => "\x7b" ++ ", ".intercalate (shownMembers members) ++ "\x7d"

def shownItems : List Value → List String
  | [] => []
  | item :: rest => shown item :: shownItems rest

def shownMembers : List (Points × Value) → List String
  | [] => []
  | (key, value) :: rest => (Text.quotedPoints key ++ ": " ++ shown value) :: shownMembers rest

end

end Value

end BatchScaler

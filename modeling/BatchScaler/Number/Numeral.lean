import BatchScaler.Fault
import BatchScaler.Text.DecimalDigit

namespace BatchScaler

def ofDigits (digits : List Nat) : Nat :=
  digits.foldl (fun n d => 10 * n + d) 0

structure Numeral where
  leading : List Char
  negative : Bool
  digits : List Nat
  trailing : List Char
  deriving DecidableEq, Repr

def splitSign : List Char → Bool × List Char
  | '-' :: rest => (true, rest)
  | '+' :: rest => (false, rest)
  | rest => (false, rest)

def withSign (negative : Bool) (n : Nat) : Int :=
  if negative then -(n : Int) else n

namespace Numeral

def scan? (cs : List Char) : Option Numeral :=
  let (negative, body) := splitSign (cs.dropWhile Text.isBlank)
  let isDigit (c : Char) : Bool := (Text.asciiDigit? c).isSome
  let digits := (body.takeWhile isDigit).filterMap Text.asciiDigit?
  let trailing := body.dropWhile isDigit
  if digits.isEmpty || !trailing.all Text.isBlank then none
  else some ⟨cs.takeWhile Text.isBlank, negative, digits, trailing⟩

def value (n : Numeral) : Int :=
  withSign n.negative (ofDigits n.digits)

/-- The integer an operand denotes, `none` for a text that is no plain numeral. A separator before
the sign is refused before the digits are counted, one after the digits only then. -/
def parse (text : String) : Except Fault (Option Int) :=
  match scan? text.toList with
  | none => .ok none
  | some n =>
    if n.leading.any Text.isSeparator then .error (.malformedNumeral text)
    else if maxNumeralDigits < n.digits.length then .error (.oversizedNumeral n.digits.length)
    else if n.trailing.any Text.isSeparator then .error (.malformedNumeral text)
    else .ok (some n.value)

/-- The digits of a text in which single underscores may stand between digits. -/
def groupedDigits? : List Char → Option (List Nat)
  | [] => none
  | [c] => (Text.decimalDigit? c).map ([·])
  | c :: '_' :: rest => do
    let d ← Text.decimalDigit? c
    let ds ← groupedDigits? rest
    return d :: ds
  | c :: rest => do
    let d ← Text.decimalDigit? c
    let ds ← groupedDigits? rest
    return d :: ds

def isPadding (c : Char) : Bool :=
  Text.isBlank c && !Text.isSeparator c

def grouped? (cs : List Char) : Option Int :=
  let inner := ((cs.dropWhile isPadding).reverse.dropWhile isPadding).reverse
  let (negative, body) := splitSign inner
  match groupedDigits? body with
  | none => none
  | some digits =>
    if maxNumeralDigits < digits.length then none
    else some (withSign negative (ofDigits digits))

end Numeral

end BatchScaler

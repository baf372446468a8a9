import BatchScaler.Text.Quoted

namespace BatchScaler

inductive Axis
  | rows
  | columns
  deriving DecidableEq, Repr

inductive Fault
  | io (path reason : String)
  /-- A path or one of its names has more bytes than the file system takes. -/
  | pathTooLong (path : String)
  /-- A variable of the environment was to hold a NUL. -/
  | nulInVariable
  /-- A numeral has more digits than the program reads. -/
  | oversizedNumeral (digits : Nat)
  /-- A numeral stands beside a separator that may not stand there. -/
  | malformedNumeral (text : String)
  | divisionByZero
  | overflow
  | engine
  /-- An axis without pixels was to be padded. -/
  | emptyAxis (axis : Axis)
  | negativeMargin
  | nestedTooDeep
  deriving DecidableEq, Repr

def maxNumeralDigits : Nat := 4300

def Axis.number : Axis → Nat
  | .rows => 0
  | .columns => 1

/-- The wording of a fault, for the faults that have one of their own. A quoted numeral is cut after
two hundred characters. -/
def Fault.message? : Fault → Option String
  | .io path reason => some (path ++ ": " ++ reason)
  | .pathTooLong path => some ("[Errno 36] File name too long: " ++ Text.quoted path)
  | .nulInVariable => some "embedded null byte"
  | .oversizedNumeral digits =>
    some ("Exceeds the limit (" ++ toString maxNumeralDigits ++ " digits) for integer string " ++
      "conversion: value has " ++ toString digits ++
      " digits; use sys.set_int_max_str_digits() to increase the limit")
  | .malformedNumeral text =>
    some ("invalid literal for int() with base 10: " ++
      String.ofList ((Text.quoted text).toList.take 200))
  | .divisionByZero => some "division by zero"
  | .overflow => none
  | .engine => none
  | .emptyAxis axis =>
    some ("can't extend empty axis " ++ toString axis.number ++
      " using modes other than 'constant' or 'empty'")
  | .negativeMargin => some "index can't contain negative values"
  | .nestedTooDeep => none

end BatchScaler

import BatchScaler.Text.Printable

namespace BatchScaler.Text

def hexPadded (width n : Nat) : String :=
  let digits := Nat.toDigits 16 n
  String.ofList (List.replicate (width - digits.length) '0' ++ digits)

def numericEscape (point : Nat) : String :=
  if point ≤ 0xFF then "\\x" ++ hexPadded 2 point
  else if point ≤ 0xFFFF then "\\u" ++ hexPadded 4 point
  else "\\U" ++ hexPadded 8 point

def singleQuote : Nat := 0x27

def doubleQuote : Nat := 0x22

def backslash : Nat := 0x5C

def quotedPoint (mark : Nat) (point : Nat) : String :=
  if point = mark ∨ point = backslash then "\\" ++ String.singleton (Char.ofNat point)
  else if point = 0x0A then "\\n"
  else if point = 0x0D then "\\r"
  else if point = 0x09 then "\\t"
  else if isPrintable point then String.singleton (Char.ofNat point)
  else numericEscape point

def quoteMark (points : List Nat) : Nat :=
  if points.contains singleQuote && !points.contains doubleQuote then doubleQuote else singleQuote

def quotedPoints (points : List Nat) : String :=
  let mark := quoteMark points
  let quote := String.singleton (Char.ofNat mark)
  quote ++ String.join (points.map (quotedPoint mark)) ++ quote

def quoted (text : String) : String :=
  quotedPoints (text.toList.map Char.toNat)

def quotedTuple : List String → String
  | [] => "()"
  | [text] => "(" ++ quoted text ++ ",)"
  | texts => "(" ++ ", ".intercalate (texts.map quoted) ++ ")"

end BatchScaler.Text

import BatchScaler.Text.UpperTable

namespace BatchScaler.Text

def upperPoints (point : Nat) : List Nat :=
  match longUppers.lookup point with
  | some points => points
  | none =>
    match upperRuns.find? fun (first, last, step, _) =>
        first ≤ point && point ≤ last && (point - first) % step == 0 with
    | some (_, _, _, shift) => [(point + shift : Int).toNat]
    | none => [point]

def upperChars (c : Char) : List Char :=
  (upperPoints c.toNat).map Char.ofNat

def upper (text : String) : String :=
  String.ofList (text.toList.flatMap upperChars)

def lowerAscii (text : String) : String :=
  String.ofList (text.toList.map Char.toLower)

end BatchScaler.Text

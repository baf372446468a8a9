import BatchScaler.Script.TokenStream

namespace BatchScaler

inductive Request
  | load (path : String)
  | resize (dimensions filter : String)
  | save (path : String)
  | exit (ignored : Nat)
  | incomplete
  deriving DecidableEq, Repr

/-- A command word with its operands; there is no request if the word is none of the four. `left`
and `leftAfter` count the tokens left after the word and after the operands. -/
structure Statement where
  command : String
  left : Nat
  request : Option Request
  leftAfter : Nat
  deriving DecidableEq, Repr

namespace Request

def readPath (request : String → Request) (s : TokenStream) : Request × TokenStream :=
  match s.take? with
  | none => (.incomplete, s)
  | some (none, rest) => (.incomplete, rest)
  | some (some path, rest) => (request path, rest)

/-- Reads the two operands of a resize, or none of them if only one is left. A missing token stands
for an empty operand. -/
def readResize (s : TokenStream) : Request × TokenStream :=
  match s.unread with
  | dimensions :: filter :: rest => (.resize (dimensions.getD "") (filter.getD ""), ⟨rest⟩)
  | _ => (.incomplete, s)

def read (command : String) (s : TokenStream) : Option Request × TokenStream :=
  if command = "/LOAD" then (readPath .load s).map some id
  else if command = "/RESIZE" then (readResize s).map some id
  else if command = "/SAVE" then (readPath .save s).map some id
  else if command = "/EXIT" then (some (.exit s.discard.1), s.discard.2)
  else (none, s)

theorem readPath_remaining (request : String → Request) (s : TokenStream) :
    (readPath request s).2.remaining ≤ s.remaining := by
  unfold readPath
  split
  · exact Nat.le_refl _
  · next h => have := TokenStream.remaining_of_take? h; simp only; omega
  · next h => have := TokenStream.remaining_of_take? h; simp only; omega

theorem readResize_remaining (s : TokenStream) :
    (readResize s).2.remaining ≤ s.remaining := by
  unfold readResize
  split
  · next h => simp only [TokenStream.remaining, h, List.length_cons]; omega
  · exact Nat.le_refl _

theorem read_remaining (command : String) (s : TokenStream) :
    (read command s).2.remaining ≤ s.remaining := by
  unfold read
  split
  · exact readPath_remaining _ s
  split
  · exact readResize_remaining s
  split
  · exact readPath_remaining _ s
  split
  · exact Nat.zero_le _
  · exact Nat.le_refl _

end Request

namespace Statement

def next? (s : TokenStream) : Option (Statement × TokenStream) :=
  s.nextCommand?.map fun (command, operands) =>
    let (request, rest) := Request.read command operands
    (⟨command, operands.remaining, request, rest.remaining⟩, rest)

theorem remaining_of_next? {s rest : TokenStream} {st : Statement}
    (h : next? s = some (st, rest)) : rest.remaining < s.remaining := by
  obtain ⟨⟨command, operands⟩, hc, he⟩ := Option.map_eq_some_iff.1 h
  simp only [Prod.mk.injEq] at he
  have hr := Request.read_remaining command operands
  rw [he.2] at hr
  have := TokenStream.remaining_of_nextCommand? hc
  omega

end Statement

def script (s : TokenStream) : List Statement :=
  match _h : Statement.next? s with
  | none => []
  | some (st, rest) => st :: script rest
termination_by s.remaining
decreasing_by exact Statement.remaining_of_next? ‹_›

end BatchScaler

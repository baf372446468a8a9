import BatchScaler.Settings.Lexeme

namespace BatchScaler

inductive ReadFailure
  | malformed
  | tooDeep
  deriving DecidableEq, Repr

/-- A list or an object that is still open. The items of a list are kept in reverse. -/
inductive Frame
  | list (items : List Value)
  | object (members : List (Points × Value)) (key : Points)

inductive Expectation
  | value
  /-- The first item of a list, or its end. -/
  | firstItem
  /-- The first key of an object, or its end. -/
  | firstKey
  | key
  | colon
  /-- A comma, or the end of what is open. -/
  | more
  /-- Nothing: the document was read. -/
  | done (document : Value)

/-- How far a document was read: what is open, the innermost first, and what is to follow. -/
structure ReaderState where
  frames : List Frame := []
  expectation : Expectation := .value

namespace ReaderState

-- At most `limit` lists and objects can be open at a time.
variable (limit : Nat)

def supply (value : Value) : List Frame → ReaderState
  | [] => ⟨[], .done value⟩
  | .list items :: frames => ⟨.list (value :: items) :: frames, .more⟩
  | .object members key :: frames => ⟨.object (setMember key value members) key :: frames, .more⟩

def start (frame : Frame) (expectation : Expectation) (frames : List Frame) :
    Except ReadFailure ReaderState :=
  if frames.length < limit then .ok ⟨frame :: frames, expectation⟩ else .error .tooDeep

def startValue (frames : List Frame) : Lexeme → Except ReadFailure ReaderState
  | .openList => start limit (.list []) .firstItem frames
  | .openObject => start limit (.object [] []) .firstKey frames
  | .text points => .ok (supply (.text points) frames)
  | .scalar value => .ok (supply value frames)
  | _ => .error .malformed

def step (s : ReaderState) (l : Lexeme) : Except ReadFailure ReaderState :=
  match s.expectation, l, s.frames with
  | .value, l, frames => startValue limit frames l
  | .firstItem, .closeList, .list _ :: frames => .ok (supply (.list []) frames)
  | .firstItem, l, frames => startValue limit frames l
  | .firstKey, .closeObject, .object _ _ :: frames => .ok (supply (.object []) frames)
  | .firstKey, .text key, .object members _ :: frames =>
    .ok ⟨.object members key :: frames, .colon⟩
  | .key, .text key, .object members _ :: frames => .ok ⟨.object members key :: frames, .colon⟩
  | .colon, .colon, frames => .ok ⟨frames, .value⟩
  | .more, .comma, .list items :: frames => .ok ⟨.list items :: frames, .value⟩
  | .more, .comma, .object members key :: frames => .ok ⟨.object members key :: frames, .key⟩
  | .more, .closeList, .list items :: frames => .ok (supply (.list items.reverse) frames)
  | .more, .closeObject, .object members _ :: frames => .ok (supply (.object members) frames)
  | _, _, _ => .error .malformed

def stepLexeme? (s : ReaderState) : Option Lexeme → Except ReadFailure ReaderState
  | none => .error .malformed
  | some l => s.step limit l

end ReaderState

/-- The value of a document. A byte order mark is not part of any. -/
def Value.ofChars (limit : Nat) (cs : List Char) : Except ReadFailure Value :=
  if cs.head? = some '\uFEFF' then .error .malformed
  else do
    let s ← (lexemes cs).foldlM (ReaderState.stepLexeme? limit) {}
    match s.expectation with
    | .done document => .ok document
    | _ => .error .malformed

def Value.ofBytes (limit : Nat) (bytes : ByteArray) : Except ReadFailure Value :=
  match String.fromUTF8? bytes with
  | none => .error .malformed
  | some document => ofChars limit document.toList

end BatchScaler

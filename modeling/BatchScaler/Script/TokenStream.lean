import BatchScaler.Text.Upper

namespace BatchScaler

/-- A word of the command line, or the mark of a missing one. -/
abbrev Token := Option String

structure TokenStream where
  unread : List Token
  deriving DecidableEq, Repr

namespace TokenStream

variable (s : TokenStream)

def remaining : Nat :=
  s.unread.length

def hasNext : Bool :=
  0 < s.remaining

def take? : Option (Token × TokenStream) :=
  match s.unread with
  | [] => none
  | token :: rest => some (token, ⟨rest⟩)

/-- The next token as a command word, which is read in upper case and is empty for a missing
token. -/
def nextCommand? : Option (String × TokenStream) :=
  s.take?.map fun (token, rest) => (Text.upper (token.getD ""), rest)

def discard : Nat × TokenStream :=
  (s.remaining, ⟨[]⟩)

variable {s}

theorem remaining_of_take? {token : Token} {rest : TokenStream} (h : s.take? = some (token, rest)) :
    s.remaining = rest.remaining + 1 := by
  rcases s with ⟨_ | ⟨t, ts⟩⟩ <;> simp [take?] at h
  simp [remaining, ← h.2]

theorem remaining_of_nextCommand? {command : String} {rest : TokenStream}
    (h : s.nextCommand? = some (command, rest)) : s.remaining = rest.remaining + 1 := by
  obtain ⟨⟨token, rest'⟩, ht, he⟩ := Option.map_eq_some_iff.1 h
  simp only [Prod.mk.injEq] at he
  exact he.2 ▸ remaining_of_take? ht

end TokenStream

end BatchScaler

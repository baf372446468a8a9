import BatchScaler.Script.TokenStream

namespace BatchScaler

namespace TokenStream

inductive Call
  | nextCommand
  | take
  | discard
  | remaining
  | hasNext
  deriving DecidableEq, Repr

inductive Answer
  | command (word : String)
  | token (token : Token)
  | count (n : Nat)
  | truth (value : Bool)
  | exhausted
  deriving DecidableEq, Repr

def answer (s : TokenStream) : Call → Answer × TokenStream
  | .nextCommand =>
    match s.nextCommand? with
    | some (word, rest) => (.command word, rest)
    | none => (.exhausted, s)
  | .take =>
    match s.take? with
    | some (token, rest) => (.token token, rest)
    | none => (.exhausted, s)
  | .discard => (.count s.discard.1, s.discard.2)
  | .remaining => (.count s.remaining, s)
  | .hasNext => (.truth s.hasNext, s)

namespace Answer

def tokens : Answer → List Token
  | token t => [t]
  | _ => []

def number : Answer → Nat
  | count n => n
  | _ => 0

end Answer

def handed (s : TokenStream) : Call → List Token
  | .nextCommand | .take => (s.answer .take).1.tokens
  | _ => []

def dropped (s : TokenStream) : Call → List Token
  | .discard => s.unread.take (s.answer .discard).1.number
  | _ => []

/-- A stream in use, with the tokens that it has handed out and those that it has dropped. -/
structure Course where
  handed : List Token
  dropped : List Token
  stream : TokenStream

namespace Course

def call (c : Course) (call : Call) : Course where
  handed := c.handed ++ c.stream.handed call
  dropped := c.dropped ++ c.stream.dropped call
  stream := (c.stream.answer call).2

def run (tokens : List Token) (calls : List Call) : Course :=
  calls.foldl call ⟨[], [], ⟨tokens⟩⟩

/-- Every token is accounted for, and after some were dropped there is none to hand out. -/
structure Sound (tokens : List Token) (c : Course) : Prop where
  accounted : c.handed ++ c.dropped ++ c.stream.unread = tokens
  finished : c.dropped = [] ∨ c.stream.unread = []

end Course

variable (s : TokenStream)

/-- What a call leaves unread is what it has neither handed out nor dropped. -/
theorem handed_append_dropped_append_unread (call : Call) :
    s.handed call ++ s.dropped call ++ (s.answer call).2.unread = s.unread := by
  rcases s with ⟨_ | ⟨token, rest⟩⟩
  · cases call <;> rfl
  · cases call with
    | discard => exact (List.append_nil _).trans List.take_length
    | _ => rfl

theorem dropped_eq_nil_or (call : Call) :
    s.dropped call = [] ∨ (s.answer call).2.unread = [] := by
  cases call with
  | discard => exact .inr rfl
  | _ => exact .inl rfl

theorem answer_eq_exhausted_iff (call : Call) :
    (s.answer call).1 = .exhausted ↔ (call = .take ∨ call = .nextCommand) ∧ s.unread = [] := by
  rcases s with ⟨_ | ⟨token, rest⟩⟩ <;> cases call <;>
    simp [answer, nextCommand?, take?]

theorem answer_of_exhausted {call : Call} (h : (s.answer call).1 = .exhausted) :
    (s.answer call).2 = s := by
  rcases s with ⟨_ | ⟨token, rest⟩⟩ <;> cases call <;> first | rfl | cases h

theorem answer_nextCommand_iff {word : String} {rest : TokenStream} :
    s.answer .nextCommand = (.command word, rest) ↔
      ∃ token, s.answer .take = (.token token, rest) ∧ word = Text.upper (token.getD "") := by
  rcases s with ⟨_ | ⟨token, rest⟩⟩
  · simp [answer, nextCommand?, take?]
  · simp only [answer, nextCommand?, take?, Option.map_some, Prod.mk.injEq, Answer.command.injEq,
      Answer.token.injEq]
    constructor
    · rintro ⟨rfl, rfl⟩
      exact ⟨token, ⟨rfl, rfl⟩, rfl⟩
    · rintro ⟨_, ⟨rfl, rfl⟩, rfl⟩
      exact ⟨rfl, rfl⟩

namespace Course

variable {tokens : List Token} {c : Course}

theorem Sound.call (h : Sound tokens c) (call : Call) : Sound tokens (c.call call) := by
  have hunread := handed_append_dropped_append_unread c.stream call
  -- A token that is handed out now goes before the dropped ones, so there must be none of them yet.
  rcases h.finished with hdropped | hfinished
  · refine ⟨?_, ?_⟩
    · rw [← h.accounted, ← hunread, hdropped]
      simp [Course.call, hdropped]
    · rcases dropped_eq_nil_or c.stream call with hnone | hdone
      · exact .inl (by simp [Course.call, hdropped, hnone])
      · exact .inr hdone
  · rw [hfinished, List.append_eq_nil_iff, List.append_eq_nil_iff] at hunread
    obtain ⟨⟨hhanded, hdropped⟩, hrest⟩ := hunread
    refine ⟨?_, .inr hrest⟩
    rw [← h.accounted, hfinished]
    simp [Course.call, hhanded, hdropped, hrest]

theorem sound_run (tokens : List Token) (calls : List Call) : Sound tokens (run tokens calls) := by
  have hfold : ∀ c, Sound tokens c → Sound tokens (calls.foldl Course.call c) := by
    intro c h
    induction calls generalizing c with
    | nil => exact h
    | cons call calls ih => exact ih _ (h.call call)
  exact hfold _ ⟨rfl, .inl rfl⟩

end Course

/-- Whatever is asked of a stream, its tokens are handed out in order, none of them twice, up to
those that are dropped or still unread; and only a call for a token fails, exactly when none is
left, and changes nothing. -/
theorem hands_out_in_order (tokens : List Token) (calls : List Call) :
    (Course.run tokens calls).handed ++ (Course.run tokens calls).dropped ++
        (Course.run tokens calls).stream.unread = tokens ∧
    (Course.run tokens calls).handed.length + (Course.run tokens calls).dropped.length +
        (Course.run tokens calls).stream.remaining = tokens.length ∧
    ∀ s : TokenStream,
      (s.answer .remaining).1 = .count s.unread.length ∧
      (s.answer .hasNext).1 = .truth (0 < s.remaining) ∧
      (∀ call, (s.answer call).1 = .exhausted ↔
        (call = .take ∨ call = .nextCommand) ∧ s.unread = []) ∧
      (∀ call, (s.answer call).1 = .exhausted → (s.answer call).2 = s) ∧
      ∀ word rest, s.answer .nextCommand = (.command word, rest) ↔
        ∃ token, s.answer .take = (.token token, rest) ∧ word = Text.upper (token.getD "") := by
  have haccounted := (Course.sound_run tokens calls).accounted
  refine ⟨haccounted, ?_, fun s ↦ ⟨rfl, rfl, s.answer_eq_exhausted_iff,
    fun _ ↦ s.answer_of_exhausted, fun _ _ ↦ s.answer_nextCommand_iff⟩⟩
  have hlength := congrArg List.length haccounted
  rwa [List.length_append, List.length_append] at hlength

/-- A stream that is discarded twice, and asked for tokens after that. -/
theorem hands_out_in_order_discarded :
    (Course.run [some "/load", none, some "a", some "b"]
        [.nextCommand, .hasNext, .take, .discard, .take, .discard, .nextCommand]).handed =
      [some "/load", none] ∧
    (Course.run [some "/load", none, some "a", some "b"]
        [.nextCommand, .hasNext, .take, .discard, .take, .discard, .nextCommand]).dropped =
      [some "a", some "b"] ∧
    ((⟨[]⟩ : TokenStream).answer .nextCommand).2 = ⟨[]⟩ ∧
    (⟨[some "/load"]⟩ : TokenStream).answer .nextCommand = (.command "/LOAD", ⟨[]⟩) := by
  obtain ⟨-, -, hstream⟩ := hands_out_in_order [some "/load", none, some "a", some "b"]
    [.nextCommand, .hasNext, .take, .discard, .take, .discard, .nextCommand]
  obtain ⟨-, -, -, hfail, -⟩ := hstream ⟨[]⟩
  obtain ⟨-, -, -, -, hcommand⟩ := hstream ⟨[some "/load"]⟩
  exact ⟨by decide, by decide, hfail .nextCommand rfl,
    (hcommand _ _).2 ⟨some "/load", rfl, by decide⟩⟩

end TokenStream

end BatchScaler

import BatchScaler.Script.Statement

namespace BatchScaler

def commandWords : List String := ["/LOAD", "/RESIZE", "/SAVE", "/EXIT"]

/-- The operands of a command are fewer than it takes, or stand for no path. -/
def LacksOperand (command : String) (operands : List Token) : Prop :=
  (command = "/LOAD" ∨ command = "/SAVE") ∧ (operands = [] ∨ operands.head? = some none) ∨
    command = "/RESIZE" ∧ operands.length < 2

namespace Request

def IsProper : Request → Prop
  | load _ | resize _ _ | save _ => True
  | exit _ | incomplete => False

theorem read_load (s : TokenStream) : read "/LOAD" s = (readPath .load s).map some id := rfl

theorem read_resize (s : TokenStream) : read "/RESIZE" s = (readResize s).map some id := rfl

theorem read_save (s : TokenStream) : read "/SAVE" s = (readPath .save s).map some id := rfl

theorem read_exit (s : TokenStream) :
    read "/EXIT" s = (some (.exit s.discard.1), s.discard.2) := rfl

theorem read_of_not_mem {command : String} (h : command ∉ commandWords) (s : TokenStream) :
    read command s = (none, s) := by
  simp only [commandWords, List.mem_cons, List.not_mem_nil, or_false, not_or] at h
  obtain ⟨hload, hresize, hsave, hexit⟩ := h
  simp only [read, hload, hresize, hsave, hexit, if_false]

theorem read_cases (command : String) :
    command = "/LOAD" ∨ command = "/RESIZE" ∨ command = "/SAVE" ∨ command = "/EXIT" ∨
      command ∉ commandWords := by
  simp only [commandWords, List.mem_cons, List.not_mem_nil, or_false]
  grind

theorem readPath_eq_incomplete_iff {request : String → Request} (h : ∀ path, request path ≠ .incomplete)
    {operands : List Token} :
    (readPath request ⟨operands⟩).1 = .incomplete ↔ operands = [] ∨ operands.head? = some none := by
  match operands with
  | [] => simp [readPath, TokenStream.take?]
  | none :: rest => simp [readPath, TokenStream.take?]
  | some path :: rest => simp [readPath, TokenStream.take?, h]

theorem readResize_eq_incomplete_iff {operands : List Token} :
    (readResize ⟨operands⟩).1 = .incomplete ↔ operands.length < 2 := by
  match operands with
  | [] => simp [readResize]
  | [_] => simp [readResize]
  | _ :: _ :: _ => simp [readResize]

theorem read_eq_incomplete_iff {command : String} {operands : List Token} :
    (read command ⟨operands⟩).1 = some .incomplete ↔ LacksOperand command operands := by
  unfold LacksOperand
  rcases read_cases command with rfl | rfl | rfl | rfl | h
  · rw [read_load]
    simp [readPath_eq_incomplete_iff]
  · rw [read_resize]
    simp [readResize_eq_incomplete_iff]
  · rw [read_save]
    simp [readPath_eq_incomplete_iff]
  · rw [read_exit]
    simp
  · rw [read_of_not_mem h]
    simp only [commandWords, List.mem_cons, List.not_mem_nil, or_false, not_or] at h
    simp [h]

theorem read_eq_none_iff {command : String} {s : TokenStream} :
    (read command s).1 = none ↔ command ∉ commandWords := by
  rcases read_cases command with rfl | rfl | rfl | rfl | h
  · simp [read_load, commandWords]
  · simp [read_resize, commandWords]
  · simp [read_save, commandWords]
  · simp [read_exit, commandWords]
  · simp [read_of_not_mem h, h]

theorem readPath_ne_exit {request : String → Request} (h : ∀ path n, request path ≠ .exit n)
    (s : TokenStream) (n : Nat) : (readPath request s).1 ≠ .exit n := by
  unfold readPath
  split
  · exact Request.noConfusion
  · exact Request.noConfusion
  · exact h _ n

theorem readResize_ne_exit (s : TokenStream) (n : Nat) : (readResize s).1 ≠ .exit n := by
  unfold readResize
  split <;> exact Request.noConfusion

theorem read_eq_exit {command : String} {s : TokenStream} {n : Nat}
    (h : (read command s).1 = some (.exit n)) : command = "/EXIT" := by
  rcases read_cases command with rfl | rfl | rfl | rfl | hc
  · exact absurd (Option.some.inj h) (readPath_ne_exit (fun _ _ ↦ Request.noConfusion) s n)
  · exact absurd (Option.some.inj h) (readResize_ne_exit s n)
  · exact absurd (Option.some.inj h) (readPath_ne_exit (fun _ _ ↦ Request.noConfusion) s n)
  · rfl
  · rw [read_of_not_mem hc] at h
    cases h

theorem readPath_append {request : String → Request} {operands : List Token}
    (h : (readPath request ⟨operands⟩).1.IsProper) (more : List Token) :
    readPath request ⟨operands ++ more⟩ =
      ((readPath request ⟨operands⟩).1, ⟨(readPath request ⟨operands⟩).2.unread ++ more⟩) := by
  match operands with
  | [] => exact h.elim
  | none :: rest => exact h.elim
  | some path :: rest => rfl

theorem readResize_append {operands : List Token} (h : (readResize ⟨operands⟩).1.IsProper)
    (more : List Token) :
    readResize ⟨operands ++ more⟩ =
      ((readResize ⟨operands⟩).1, ⟨(readResize ⟨operands⟩).2.unread ++ more⟩) := by
  match operands with
  | [] => exact h.elim
  | [_] => exact h.elim
  | _ :: _ :: _ => rfl

theorem read_append {command : String} {operands : List Token} {request : Request}
    (h : (read command ⟨operands⟩).1 = some request) (hr : request.IsProper) (more : List Token) :
    read command ⟨operands ++ more⟩ =
      (some request, ⟨(read command ⟨operands⟩).2.unread ++ more⟩) := by
  rcases read_cases command with rfl | rfl | rfl | rfl | hc
  · rw [read_load] at h ⊢
    obtain rfl := Option.some.inj h
    rw [read_load, readPath_append hr]
    rfl
  · rw [read_resize] at h ⊢
    obtain rfl := Option.some.inj h
    rw [read_resize, readResize_append hr]
    rfl
  · rw [read_save] at h ⊢
    obtain rfl := Option.some.inj h
    rw [read_save, readPath_append hr]
    rfl
  · cases h
    exact hr.elim
  · rw [read_of_not_mem hc] at h
    cases h

end Request

def Statement.readAt (word : Token) (operands : List Token) : Statement × TokenStream :=
  let command := Text.upper (word.getD "")
  let read := Request.read command ⟨operands⟩
  (⟨command, operands.length, read.1, read.2.remaining⟩, read.2)

theorem script_nil : script ⟨[]⟩ = [] := by
  rw [script]
  rfl

theorem script_cons (word : Token) (operands : List Token) :
    script ⟨word :: operands⟩ =
      (Statement.readAt word operands).1 :: script (Statement.readAt word operands).2 := by
  rw [script]
  rfl

theorem upper_commandWord : ∀ word ∈ commandWords, Text.upper word = word := by decide +kernel

theorem script_command {word : String} (h : word ∈ commandWords) (operands : List Token) :
    script ⟨some word :: operands⟩ =
      ⟨word, operands.length, (Request.read word ⟨operands⟩).1,
        (Request.read word ⟨operands⟩).2.remaining⟩ :: script (Request.read word ⟨operands⟩).2 := by
  rw [script_cons, Statement.readAt, Option.getD_some, upper_commandWord word h]

theorem script_load (path : String) (rest : List Token) :
    script ⟨some "/LOAD" :: some path :: rest⟩ =
      ⟨"/LOAD", rest.length + 1, some (.load path), rest.length⟩ :: script ⟨rest⟩ :=
  script_command (by decide) _

theorem script_save (path : String) (rest : List Token) :
    script ⟨some "/SAVE" :: some path :: rest⟩ =
      ⟨"/SAVE", rest.length + 1, some (.save path), rest.length⟩ :: script ⟨rest⟩ :=
  script_command (by decide) _

theorem script_resize (size filter : String) (rest : List Token) :
    script ⟨some "/RESIZE" :: some size :: some filter :: rest⟩ =
      ⟨"/RESIZE", rest.length + 2, some (.resize size filter), rest.length⟩ :: script ⟨rest⟩ :=
  script_command (by decide) _

/-- Where a statement of a script stands among the tokens. -/
def Statement.ReadFrom (tokens : List Token) (st : Statement) (operands : List Token) : Prop :=
  ∃ before word, tokens = before ++ word :: operands ∧ st = (Statement.readAt word operands).1

theorem Statement.ReadFrom.request_eq {tokens operands : List Token} {st : Statement}
    (h : st.ReadFrom tokens operands) : st.request = (Request.read st.command ⟨operands⟩).1 := by
  obtain ⟨before, word, -, rfl⟩ := h
  rfl

theorem Request.readPath_suffix (request : String → Request) (operands : List Token) :
    (readPath request ⟨operands⟩).2.unread <:+ operands := by
  match operands with
  | [] => exact List.suffix_refl _
  | none :: rest => exact List.suffix_cons _ _
  | some path :: rest => exact List.suffix_cons _ _

theorem Request.readResize_suffix (operands : List Token) :
    (readResize ⟨operands⟩).2.unread <:+ operands := by
  match operands with
  | [] => exact List.suffix_refl _
  | [_] => exact List.suffix_refl _
  | _ :: _ :: rest => exact (List.suffix_cons _ rest).trans (List.suffix_cons _ _)

theorem Request.read_suffix (command : String) (operands : List Token) :
    (read command ⟨operands⟩).2.unread <:+ operands := by
  rcases read_cases command with rfl | rfl | rfl | rfl | h
  · exact readPath_suffix .load operands
  · exact readResize_suffix operands
  · exact readPath_suffix .save operands
  · exact List.nil_suffix
  · simp only [read_of_not_mem h, List.suffix_refl]

theorem Statement.readAt_suffix (word : Token) (operands : List Token) :
    (Statement.readAt word operands).2.unread <:+ operands :=
  Request.read_suffix _ operands

theorem Statement.length_readAt (word : Token) (operands : List Token) :
    (Statement.readAt word operands).2.unread.length < (word :: operands).length :=
  Nat.lt_succ_of_le (readAt_suffix word operands).length_le

theorem readFrom_of_mem_script {tokens : List Token} {st : Statement}
    (h : st ∈ script ⟨tokens⟩) : ∃ operands, st.ReadFrom tokens operands := by
  induction hn : tokens.length using Nat.strongRecOn generalizing tokens with
  | ind n ih =>
    cases tokens with
    | nil =>
      rw [script_nil] at h
      cases h
    | cons word operands =>
      rw [script_cons] at h
      rcases List.mem_cons.1 h with rfl | h
      · exact ⟨operands, [], word, rfl, rfl⟩
      · have hlength := hn ▸ Statement.length_readAt word operands
        obtain ⟨skipped, hskip⟩ := Statement.readAt_suffix word operands
        obtain ⟨later, before, word', hsplit, hst⟩ := ih _ hlength h rfl
        refine ⟨later, word :: (skipped ++ before), word', ?_, hst⟩
        rw [List.cons_append, List.append_assoc, ← hsplit]
        exact congrArg (word :: ·) hskip.symm

/-- A script of proper requests reads the same whatever tokens follow, and the rest is read as a
script of its own. -/
theorem map_request_script_append {p : List Token}
    (h : ∀ st ∈ script ⟨p⟩, ∃ request, st.request = some request ∧ request.IsProper)
    (q : List Token) :
    (script ⟨p ++ q⟩).map Statement.request =
      (script ⟨p⟩).map Statement.request ++ (script ⟨q⟩).map Statement.request := by
  -- Every statement takes at least its command word, so the tokens left are fewer each time.
  induction hn : p.length using Nat.strongRecOn generalizing p with
  | ind n ih =>
    cases p with
    | nil =>
      rw [script_nil]
      rfl
    | cons word operands =>
      rw [script_cons] at h
      obtain ⟨request, hread, hproper⟩ := h _ List.mem_cons_self
      have hread' := Request.read_append hread hproper q
      have hfirst : (Statement.readAt word (operands ++ q)).1.request =
          (Statement.readAt word operands).1.request := by
        rw [hread]
        exact congrArg Prod.fst hread'
      have hsecond : (Statement.readAt word (operands ++ q)).2 =
          ⟨(Statement.readAt word operands).2.unread ++ q⟩ := congrArg Prod.snd hread'
      have hrest := ih _ (hn ▸ Statement.length_readAt word operands)
        (p := (Statement.readAt word operands).2.unread)
        (fun st hst ↦ h st (List.mem_cons_of_mem _ hst)) rfl
      rw [List.cons_append, script_cons, script_cons, List.map_cons, List.map_cons, hfirst, hsecond,
        hrest, List.cons_append]

theorem map_request_script_replicate (size filter : String) (k : Nat) (r : List Token) :
    (script ⟨(List.replicate k [some "/RESIZE", some size, some filter]).flatten ++ r⟩).map
        Statement.request =
      List.replicate k (some (.resize size filter)) ++ (script ⟨r⟩).map Statement.request := by
  induction k with
  | zero => rfl
  | succ k ih =>
    rw [List.replicate_succ, List.flatten_cons, List.append_assoc]
    simp only [List.cons_append, List.nil_append]
    rw [script_resize, List.map_cons, ih, List.replicate_succ, List.cons_append]

end BatchScaler

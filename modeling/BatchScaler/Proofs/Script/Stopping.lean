import BatchScaler.Proofs.Script.Composition

namespace BatchScaler

open BatchScaler.Action

variable {σ ι κ : Type}

def operandCount (command : String) : Nat :=
  if command = "/LOAD" ∨ command = "/SAVE" then 1 else if command = "/RESIZE" then 2 else 0

def Statement.HasOperands (st : Statement) : Prop :=
  operandCount st.command ≤ st.left

instance (st : Statement) : Decidable st.HasOperands :=
  inferInstanceAs (Decidable (operandCount st.command ≤ st.left))

namespace Request

/-- Requests that are equal, or exits that drop different numbers of tokens. -/
inductive Similar : Option Request → Option Request → Prop
  | refl (request : Option Request) : Similar request request
  | exit (m n : Nat) : Similar (some (.exit m)) (some (.exit n))

theorem similar_readPath {request : String → Request} {operands : List Token}
    (h : 1 ≤ operands.length) (more : List Token) :
    Similar (some (readPath request ⟨operands ++ more⟩).1)
      (some (readPath request ⟨operands⟩).1) := by
  match operands with
  | [] => exact absurd h (by decide)
  | none :: rest => exact .refl _
  | some path :: rest => exact .refl _

theorem similar_readResize {operands : List Token} (h : 2 ≤ operands.length) (more : List Token) :
    Similar (some (readResize ⟨operands ++ more⟩).1) (some (readResize ⟨operands⟩).1) := by
  match operands with
  | [] => exact absurd h (by decide)
  | [_] => exact absurd h (by simp)
  | _ :: _ :: _ => exact .refl _

/-- A command with all its operands does not read the tokens after them, except that an exit counts
them. -/
theorem similar_read_append {command : String} {operands : List Token}
    (h : operandCount command ≤ operands.length) (more : List Token) :
    Similar (read command ⟨operands ++ more⟩).1 (read command ⟨operands⟩).1 := by
  rcases read_cases command with rfl | rfl | rfl | rfl | hc
  · exact similar_readPath h more
  · exact similar_readResize h more
  · exact similar_readPath h more
  · exact .exit _ _
  · rw [read_of_not_mem hc, read_of_not_mem hc]
    exact .refl none

end Request

/-- More tokens at the end leave a script as it is up to a statement that has all its operands, if
the statements before it let the run go on. -/
theorem script_append_of_split {p : List Token} {done rest : List Statement} {st : Statement}
    (hsplit : script ⟨p⟩ = done ++ st :: rest)
    (hdone : ∀ st' ∈ done, ∃ request, st'.request = some request ∧ request.IsProper)
    (hst : st.HasOperands) (q : List Token) :
    ∃ done' st' rest', script ⟨p ++ q⟩ = done' ++ st' :: rest' ∧
      done'.map Statement.request = done.map Statement.request ∧
      Request.Similar st'.request st.request := by
  induction done generalizing p with
  | nil =>
    cases p with
    | nil =>
      rw [script_nil] at hsplit
      cases hsplit
    | cons word operands =>
      rw [script_cons] at hsplit
      obtain ⟨rfl, -⟩ := List.cons.inj hsplit
      exact ⟨[], _, _, script_cons word (operands ++ q), rfl, Request.similar_read_append hst q⟩
  | cons first done ih =>
    cases p with
    | nil =>
      rw [script_nil] at hsplit
      cases hsplit
    | cons word operands =>
      rw [script_cons] at hsplit
      obtain ⟨rfl, hrest⟩ := List.cons.inj hsplit
      obtain ⟨request, hread, hproper⟩ := hdone _ List.mem_cons_self
      obtain ⟨done', st', rest', hscript, hrequests, hsimilar⟩ :=
        ih (p := (Statement.readAt word operands).2.unread) hrest
          fun st' hst' ↦ hdone st' (List.mem_cons_of_mem _ hst')
      -- The first request is proper, so what is appended comes after what it leaves unread.
      have happend := Request.read_append hread hproper q
      have hunread : (Statement.readAt word (operands ++ q)).2 =
          ⟨(Statement.readAt word operands).2.unread ++ q⟩ := congrArg Prod.snd happend
      refine ⟨(Statement.readAt word (operands ++ q)).1 :: done', st', rest', ?_, ?_, hsimilar⟩
      · rw [List.cons_append, script_cons, hunread, hscript]
        rfl
      · have hfirst : (Statement.readAt word (operands ++ q)).1.request = some request :=
          congrArg Prod.fst happend
        rw [List.map_cons, List.map_cons, hrequests, hfirst, hread]

namespace Session

variable {s : Session σ ι κ}

theorem visible_enact_similar {request request' : Option Request}
    (h : Request.Similar request request') (b : Option ι) :
    (s.enact request b).visible = (s.enact request' b).visible := by
  cases h with
  | refl => rfl
  | exit m n => rw [visible_enact_exit, visible_enact_exit]

/-- Tokens after a statement that has all its operands and ends the run change nothing that is seen
of the run, nor how it ends. -/
theorem runTokens_append_of_stops {p : List Token} {w w' : σ} {st : Statement} {b : Option ι}
    (hst : s.Reaches w (script ⟨p⟩) st b w') (hstop : s.Stops b w' st)
    (hoperands : st.HasOperands) (q : List Token) :
    (s.runTokens (p ++ q)).visible.run w = (s.runTokens p).visible.run w := by
  obtain ⟨done, rest, E, hsplit, hpass⟩ := hst
  obtain ⟨done', st', rest', hsplit', hrequests, hsimilar⟩ :=
    script_append_of_split hsplit hpass.isProper hoperands q
  have hpass' : s.Passes none w done' E b w' := by
    rw [Passes, visible_executeAll_congr hrequests]
    exact hpass
  have hact := visible_enact_similar (s := s) hsimilar b
  have hstop' : s.Stops b w' st' := by
    intro b'
    rw [← result_visible, hact]
    exact hstop b'
  rw [runTokens, runTokens, run_visible_runFrom, run_visible_runFrom, hsplit, hsplit',
    run_of_passes hpass, run_of_passes hpass', run_of_stops hstop, run_of_stops hstop', hact]

theorem runTokens_append_of_failing_filter :
    ∃ st b w', Rehearsal.sampleWithFailure.Reaches {}
        (script ⟨["/LOAD", "a", "/RESIZE", "0x0", "Pixel(3)"].map some⟩) st b w' ∧
      Rehearsal.sampleWithFailure.Stops b w' st ∧ st.HasOperands ∧
      (Rehearsal.sampleWithFailure.runTokens (["/LOAD", "a", "/RESIZE", "0x0",
        "Pixel(3)"].map some ++ ["/SAVE", "b.png"].map some)).visible.run {} =
      (Rehearsal.sampleWithFailure.runTokens
        (["/LOAD", "a", "/RESIZE", "0x0", "Pixel(3)"].map some)).visible.run {} := by
  have hresult : ((Rehearsal.sampleWithFailure.executeAll none
      [⟨"/LOAD", 4, some (.load "a"), 3⟩]).run {}).result = .ok (.next (some ⟨"a", 4, 3, []⟩)) := by
    decide +kernel
  have hloaded := passes_of_result hresult
  have hreach : Rehearsal.sampleWithFailure.Reaches {}
      (script ⟨["/LOAD", "a", "/RESIZE", "0x0", "Pixel(3)"].map some⟩)
      ⟨"/RESIZE", 2, some (.resize "0x0" "Pixel(3)"), 0⟩ (some ⟨"a", 4, 3, []⟩) _ :=
    ⟨_, [], _, by decide +kernel, hloaded⟩
  have hstop : Rehearsal.sampleWithFailure.Stops (some ⟨"a", 4, 3, []⟩) {}
      ⟨"/RESIZE", 2, some (.resize "0x0" "Pixel(3)"), 0⟩ := by
    have hfault : ((Rehearsal.sampleWithFailure.enact (some (.resize "0x0" "Pixel(3)"))
        (some ⟨"a", 4, 3, []⟩)).run {}).result = .error (.io "Pixel" "filter failed") := by
      decide +kernel
    intro b' h
    cases hfault.symm.trans h
  exact ⟨_, _, _, hreach, hstop, by decide, runTokens_append_of_stops hreach hstop (by decide) _⟩

end Session

end BatchScaler

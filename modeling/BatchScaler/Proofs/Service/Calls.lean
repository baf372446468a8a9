import BatchScaler.Proofs.Report.Outcome
import BatchScaler.Script.Session

namespace BatchScaler

variable {σ ι κ : Type}

inductive Call (ι κ : Type)
  | load (path : String)
  | applyFilter (image : ι) (f : NamedFilter κ) (requested : Size) (xMode yMode : EdgeMode)
  | save (image : ι) (path : String)
  | hasEncoder (mime : String)
  | saveWithQuality (image : ι) (path mime : String) (quality : Nat)

inductive Answer (ι : Type)
  | image (image : ι)
  | done
  | encoder (available : Bool)

theorem Answer.image_injective : Function.Injective (Answer.image : ι → Answer ι) :=
  fun _ _ h ↦ Answer.image.inj h

theorem Answer.encoder_injective : Function.Injective (Answer.encoder : Bool → Answer ι) :=
  fun _ _ h ↦ Answer.encoder.inj h

namespace ImageService

variable (service : ImageService σ ι κ)

def answer : Call ι κ → Action LogRecord σ (Answer ι)
  | .load path => service.load path >>= fun image ↦ pure (.image image)
  | .applyFilter image f requested xMode yMode =>
    service.applyFilter image f requested xMode yMode >>= fun image ↦ pure (.image image)
  | .save image path => service.save image path >>= fun _ ↦ pure .done
  | .hasEncoder mime => service.hasEncoder mime >>= fun available ↦ pure (.encoder available)
  | .saveWithQuality image path mime quality =>
    service.saveWithQuality image path mime quality >>= fun _ ↦ pure .done

def stateAfter (w : σ) (calls : List (Call ι κ)) : σ :=
  calls.foldl (fun w call ↦ ((service.answer call).run w).state) w

end ImageService

namespace Session

variable (s : Session σ ι κ)

/-- The calls that a session may make: it applies no filters but those of its registry. -/
def MayAsk : Call ι κ → Prop
  | .applyFilter _ f _ _ _ => ∃ name, s.registry.resolve name = some f
  | _ => True

def Leads (w w' : σ) : Prop :=
  ∃ calls, (∀ call ∈ calls, s.MayAsk call) ∧ s.service.stateAfter w calls = w'

/-- Whatever the session calls, it gets the same answers from two states on. -/
def Alike (w₁ w₂ : σ) : Prop :=
  ∀ calls call, (∀ call ∈ calls, s.MayAsk call) → s.MayAsk call →
    ((s.service.answer call).run (s.service.stateAfter w₁ calls)).result =
      ((s.service.answer call).run (s.service.stateAfter w₂ calls)).result

/-- What the service answers does not depend on the calls before. -/
def Steady (w : σ) : Prop :=
  ∀ calls call, (∀ call ∈ calls, s.MayAsk call) → s.MayAsk call →
    ((s.service.answer call).run (s.service.stateAfter w calls)).result =
      ((s.service.answer call).run w).result

def Indiscernible (R : σ → σ → Prop) : Prop :=
  ∀ call w₁ w₂, s.MayAsk call → R w₁ w₂ →
    ((s.service.answer call).run w₁).result = ((s.service.answer call).run w₂).result ∧
      R ((s.service.answer call).run w₁).state ((s.service.answer call).run w₂).state

variable {s}

theorem Leads.refl (w : σ) : s.Leads w w :=
  ⟨[], fun _ h ↦ absurd h List.not_mem_nil, rfl⟩

theorem Leads.call {w w' : σ} (h : s.Leads w w') {call : Call ι κ} (hcall : s.MayAsk call) :
    s.Leads w ((s.service.answer call).run w').state := by
  obtain ⟨calls, hcalls, rfl⟩ := h
  refine ⟨calls ++ [call], ?_, ?_⟩
  · intro c hc
    rcases List.mem_append.1 hc with hc | hc
    · exact hcalls c hc
    · exact List.mem_singleton.1 hc ▸ hcall
  · exact List.foldl_append

theorem Alike.refl (w : σ) : s.Alike w w :=
  fun _ _ _ _ ↦ rfl

theorem Steady.alike {w w₁ w₂ : σ} (h : s.Steady w) (h₁ : s.Leads w w₁) (h₂ : s.Leads w w₂) :
    s.Alike w₁ w₂ := by
  intro calls call hcalls hcall
  -- Calls that follow others are calls from the start.
  have hstart : ∀ w', s.Leads w w' →
      ((s.service.answer call).run (s.service.stateAfter w' calls)).result =
        ((s.service.answer call).run w).result := by
    rintro w' ⟨before, hbefore, rfl⟩
    have hall : ∀ c ∈ before ++ calls, s.MayAsk c := fun c hc ↦
      (List.mem_append.1 hc).elim (hbefore c) (hcalls c)
    have hfold : s.service.stateAfter w (before ++ calls) =
        s.service.stateAfter (s.service.stateAfter w before) calls := List.foldl_append
    rw [← hfold]
    exact h _ call hall hcall
  rw [hstart w₁ h₁, hstart w₂ h₂]

theorem indiscernible_alike : s.Indiscernible s.Alike := by
  intro call w₁ w₂ hcall h
  refine ⟨h [] call (fun _ h ↦ absurd h List.not_mem_nil) hcall, ?_⟩
  intro calls next hcalls hnext
  refine h (call :: calls) next ?_ hnext
  intro c hc
  rcases List.mem_cons.1 hc with rfl | hc
  · exact hcall
  · exact hcalls c hc

/-- Equal states that calls lead to are related, so a run can be followed from call to call. -/
theorem indiscernible_leads (w : σ) : s.Indiscernible fun w₁ w₂ ↦ s.Leads w w₁ ∧ w₁ = w₂ := by
  rintro call w' _ hcall ⟨h, rfl⟩
  exact ⟨rfl, h.call hcall, rfl⟩

end Session

end BatchScaler

import BatchScaler.Proofs.Script.Execution
import BatchScaler.Proofs.Script.Operands
import BatchScaler.Proofs.Service.Rehearsal

namespace BatchScaler

variable {σ ι κ : Type}

def Fault.IsIo (fault : Fault) : Prop :=
  ∃ path reason, fault = .io path reason

open BatchScaler.Action

/-- A service whose requests fail with image faults only. -/
structure ImageService.OnlyIo (service : ImageService σ ι κ) : Prop where
  load : ∀ path, (service.load path).FaultsOnly Fault.IsIo
  applyFilter : ∀ image f requested xMode yMode,
    (service.applyFilter image f requested xMode yMode).FaultsOnly Fault.IsIo
  save : ∀ image path, (service.save image path).FaultsOnly Fault.IsIo
  hasEncoder : ∀ mime, (service.hasEncoder mime).FaultsOnly Fault.IsIo
  saveWithQuality : ∀ image path mime quality,
    (service.saveWithQuality image path mime quality).FaultsOnly Fault.IsIo

theorem Except.map_eq_error {α β : Type} {g : α → β} {x : Except Fault α} {fault : Fault}
    (h : x.map g = .error fault) : x = .error fault := by
  cases x with
  | error fault' =>
    cases h
    rfl
  | ok x => cases h

theorem Numeral.not_isIo_of_parse {text : String} {fault : Fault}
    (h : Numeral.parse text = .error fault) : ¬ fault.IsIo := by
  rintro ⟨path, reason, rfl⟩
  rcases Numeral.fault_of_parse h with ⟨digits, h⟩ | ⟨text, h⟩ <;> cases h

def UnreadableOperands (size filter : String) : Prop :=
  Dimensions.Unreadable size ∨
    (∃ dimensions, Dimensions.parse size = .ok (.ok dimensions)) ∧ FilterSpec.Unreadable filter

namespace Session

variable {s : Session σ ι κ}

theorem ask_faultsOnly {α : Type} {P : Fault → Prop} {request : Action LogRecord σ α}
    (h : request.FaultsOnly P) (event : Event ι) : (ask event request).FaultsOnly P :=
  .bind (.report _ _) fun _ ↦ h

theorem applyTimes_faultsOnly (hs : s.service.OnlyIo) (f : NamedFilter κ) (requested : Size)
    (n : Nat) (image : ι) : (s.applyTimes f requested n image).FaultsOnly Fault.IsIo := by
  induction n generalizing image with
  | zero => exact .pure _ image
  | succ n ih =>
    have hask := ask_faultsOnly (hs.applyFilter image f requested resizeEdge resizeEdge)
      (.applyFilter image f.name requested resizeEdge resizeEdge)
    exact .bind (.bind (hask.thenReport _) fun image' ↦ .bind (.report _ _) fun _ ↦ .pure _ image')
      ih

/-- A statement ends with a fault that is none of the service's exactly where it is a resize with
operands that cannot be read. -/
theorem enact_fault_iff (hs : s.service.OnlyIo) (request : Option Request) (b : Option ι) (w : σ) :
    (∃ fault, ((s.enact request b).run w).result = .error fault ∧ ¬ fault.IsIo) ↔
      ∃ size filter, request = some (.resize size filter) ∧ UnreadableOperands size filter := by
  have hstep := enacts_enact (s := s) w request b
  have hresult : ((s.enact request b).visible.run w).result = ((s.enact request b).run w).result :=
    rfl
  rw [← hresult]
  generalize (s.enact request b).visible.run w = outcome at hstep
  constructor
  · rintro ⟨fault, hfault, hio⟩
    cases hstep with
    | load ho =>
      exact absurd (hs.load _ w fault (ho ▸ Except.map_eq_error hfault)) hio
    | unreadableSize hd =>
      exact ⟨_, _, rfl, .inl (Dimensions.parse_eq_error_iff.1 ⟨_, hd⟩)⟩
    | unreadableCount hd hf =>
      exact ⟨_, _, rfl, .inr ⟨⟨_, hd⟩, FilterSpec.parse_eq_error_iff.1 ⟨_, hf⟩⟩⟩
    | resize hd hf hr ho =>
      exact absurd (applyTimes_faultsOnly hs _ _ _ _ w fault
        (by rw [← Except.map_eq_error hfault, ← ho]; rfl)) hio
    | save hj ho =>
      exact absurd (hs.save _ _ w fault (ho ▸ Except.map_eq_error hfault)) hio
    | probeFault hj ho hr =>
      cases hfault
      exact absurd (hs.hasEncoder _ w fault (ho ▸ hr)) hio
    | saveWithQuality hj he ho =>
      exact absurd (hs.saveWithQuality _ _ _ _ _ fault (ho ▸ Except.map_eq_error hfault)) hio
    | unknown | exit | incomplete | badSize | nothingToResize | unknownFilter | nothingToSave
    | missingEncoder => cases hfault
  · rintro ⟨size, filter, rfl, hun⟩
    have hsize : ∀ x, Dimensions.parse size = .ok x → ¬ Dimensions.Unreadable size := by
      intro x hx hu
      obtain ⟨fault, hf⟩ := Dimensions.parse_eq_error_iff.2 hu
      cases hx.symm.trans hf
    have hfilter : ∀ x, FilterSpec.parse filter = .ok x → ¬ FilterSpec.Unreadable filter := by
      intro x hx hu
      obtain ⟨fault, hf⟩ := FilterSpec.parse_eq_error_iff.2 hu
      cases hx.symm.trans hf
    cases hstep with
    | unreadableSize hd =>
      obtain ⟨text, ht⟩ := Dimensions.numeral_fault_of_parse hd
      exact ⟨_, rfl, Numeral.not_isIo_of_parse ht⟩
    | unreadableCount hd hf =>
      obtain ⟨text, ht⟩ := FilterSpec.numeral_fault_of_parse hf
      exact ⟨_, rfl, Numeral.not_isIo_of_parse ht⟩
    | badSize hd =>
      rcases hun with hu | ⟨⟨dimensions, hd'⟩, -⟩
      · exact absurd hu (hsize _ hd)
      · cases hd.symm.trans hd'
    | nothingToResize hd hf | unknownFilter hd hf | resize hd hf =>
      rcases hun with hu | ⟨-, hu⟩
      · exact absurd hu (hsize _ hd)
      · exact absurd hu (hfilter _ hf)

theorem executeAll_fault_iff (hs : s.service.OnlyIo) (sts : List Statement) (w : σ) :
    (∃ fault, ((s.executeAll none sts).run w).result = .error fault ∧ ¬ fault.IsIo) ↔
      ∃ st b w', s.Reaches w sts st b w' ∧
        ∃ size filter, st.request = some (.resize size filter) ∧ UnreadableOperands size filter := by
  constructor
  · rintro ⟨fault, hfault, hio⟩
    rcases s.passes_or_stops none w sts with ⟨E, b', w', h⟩ | ⟨done, st, rest, E, b', w', hsplit, hpass, -, hrun⟩
    · cases (congrArg Outcome.result h).symm.trans hfault
    · have hst : ((s.enact st.request b').run w').result = .error fault :=
        (congrArg Outcome.result hrun).symm.trans hfault
      exact ⟨st, b', w', ⟨done, rest, E, hsplit, hpass⟩, (enact_fault_iff hs _ b' w').1 ⟨fault, hst, hio⟩⟩
  · rintro ⟨st, b', w', ⟨done, rest, E, rfl, hpass⟩, hun⟩
    obtain ⟨fault, hfault, hio⟩ := (enact_fault_iff hs st.request b' w').2 hun
    have hstop : s.Stops b' w' st := by
      intro b'' h
      cases h.symm.trans hfault
    refine ⟨fault, ?_, hio⟩
    have hrun := congrArg Outcome.result (run_of_passes hpass (st :: rest))
    rw [run_of_stops hstop] at hrun
    exact hrun.trans hfault

/-- A run ends with a status or with an image fault, unless it comes to a resize with an operand that
holds a numeral beyond what can be read. -/
theorem run_ends_iff (hs : s.service.OnlyIo) (tokens : List Token) (w : σ) :
    ((∃ status, ((s.runTokens tokens).run w).result = .ok status) ∨
      ∃ path reason, ((s.runTokens tokens).run w).result = .error (.io path reason)) ↔
    ¬ ∃ st b w', s.Reaches w (script ⟨tokens⟩) st b w' ∧
      ∃ size filter, st.request = some (.resize size filter) ∧ UnreadableOperands size filter := by
  rw [← executeAll_fault_iff hs]
  have hrun : ((s.runTokens tokens).run w).result =
      ((s.executeAll none (script ⟨tokens⟩)).run w).result.map Flow.status :=
    congrArg Outcome.result (s.run_runFrom none (script ⟨tokens⟩) w)
  rw [hrun]
  cases hr : ((s.executeAll none (script ⟨tokens⟩)).run w).result with
  | ok flow => simp [Except.map]
  | error fault => simp [Except.map, Fault.IsIo]

end Session

namespace Rehearsal

theorem save_faultsOnly (r : Rehearsal) (path : String) :
    (r.save path).FaultsOnly Fault.IsIo := by
  intro w fault h
  unfold save at h
  split at h <;> cases h
  exact ⟨_, _, rfl⟩

theorem onlyIo (r : Rehearsal) : r.service.OnlyIo where
  load path := by
    intro w fault h
    simp only [service, load] at h
    split at h <;> cases h
    exact ⟨_, _, rfl⟩
  applyFilter image f requested xMode yMode := by
    refine .bind (fun w fault h ↦ by cases h) fun _ ↦ .bind (fun w fault h ↦ by cases h) fun n ↦ ?_
    intro w fault h
    split at h <;> cases h
    exact ⟨_, _, rfl⟩
  save image path := r.save_faultsOnly path
  hasEncoder mime := .pure _ _
  saveWithQuality image path mime quality := r.save_faultsOnly path

end Rehearsal

namespace Session

theorem run_ends_iff_separator :
    Rehearsal.sample.service.OnlyIo ∧
    ∃ st b w', Rehearsal.sample.Reaches {}
        (script ⟨["/LOAD", "a", "/RESIZE", "0x0", "Pixel(1\x1c)"].map some⟩) st b w' ∧
      ∃ size filter, st.request = some (.resize size filter) ∧ UnreadableOperands size filter := by
  refine ⟨Rehearsal.onlyIo _, Classical.not_not.1 fun h ↦ ?_⟩
  have hends := (run_ends_iff (Rehearsal.onlyIo _) _ _).2 h
  have hfault : ((Rehearsal.sample.runTokens
      (["/LOAD", "a", "/RESIZE", "0x0", "Pixel(1\x1c)"].map some)).run {}).result =
      .error (.malformedNumeral "1\x1c") := by decide +kernel
  rw [hfault] at hends
  rcases hends with ⟨status, h⟩ | ⟨path, reason, h⟩ <;> cases h

/-- A separator beside a repeat count is taken for a blank and then refused by the numeral. -/
theorem count_beside_separator_escapes :
    Rehearsal.sample.service.OnlyIo ∧
    ((Rehearsal.sample.runTokens
      (["/LOAD", "a", "/RESIZE", "0x0", "Pixel(1\x1c)"].map some)).run {}).result =
      .error (.malformedNumeral "1\x1c") :=
  ⟨Rehearsal.onlyIo _, by decide +kernel⟩

end Session

end BatchScaler

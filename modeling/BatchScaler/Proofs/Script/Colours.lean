import BatchScaler.Proofs.Picture.Recolouring
import BatchScaler.Proofs.Script.Provenance
import BatchScaler.Service.Files

namespace BatchScaler

open BatchScaler.Action Session

def knownFilters : List (NamedFilter Method) :=
  kernelFilters ++ pixelArtFilters

def copyingNames : List String :=
  ["Pixel", "Scale2x", "Scale3x", "Eagle2x"]

theorem copies_of_name :
    ∀ f ∈ knownFilters, f.name ∈ copyingNames → f.method.Copies := by
  decide

def Session.LastLoaded {σ ι κ : Type} (s : Session σ ι κ) (w : σ) (done : List Statement)
    (image : ι) : Prop :=
  ∃ before st since path b w₁ w₂ E, done = before ++ st :: since ∧
    s.Passes none w before E b w₁ ∧ st.request = some (.load path) ∧
    (s.service.load path).Yields w₁ image w₂ ∧ ∀ st ∈ since, ¬ st.IsLoad

namespace FileService

def session (engine : Engine) (profile : EngineProfile) (program : String) :
    Session Disk Picture Method :=
  ⟨service engine profile, defaultRegistry, program⟩

variable {engine : Engine} {profile : EngineProfile} {image image' : Picture} {w w' : Disk}

theorem drawnFrom_of_applyTimes {f : NamedFilter Method} (hf : f.method.Copies) {requested : Size}
    {n : ℕ} (h : (service engine profile).Applied f requested n image w image' w') :
    image'.DrawnFrom image := by
  induction h with
  | zero image w => exact .refl image
  | succ hfirst hrest ih =>
    obtain ⟨hresult, -⟩ := hfirst
    exact ih.trans (NamedFilter.drawnFrom_of_applied hf
      ((NamedFilter.result_apply ..).symm.trans hresult))

theorem drawnFrom_of_developed {since : List Statement}
    (h : (service engine profile).Developed knownFilters image w since image' w')
    (hsince : ∀ st ∈ since, ∀ name ∈ st.stages knownFilters, name ∈ copyingNames) :
    image'.DrawnFrom image := by
  induction h with
  | loaded => exact .refl image
  | @resized since st size filter dimensions spec f _ _ _ _ hdev hr hd hf hfirst happ ih =>
    have hbefore : ∀ st ∈ since, ∀ name ∈ st.stages knownFilters, name ∈ copyingNames :=
      fun st hst ↦ hsince st (List.mem_append_left _ hst)
    have hstages : st.stages knownFilters = List.replicate spec.repeats f.name := by
      simp only [Statement.stages, hr, hf, hfirst]
    refine Picture.DrawnFrom.trans ?_ (ih hbefore)
    rcases Nat.eq_zero_or_pos spec.repeats with hrepeats | hrepeats
    · rw [hrepeats] at happ
      cases happ
      exact .refl _
    · have hname : f.name ∈ copyingNames := by
        apply hsince st (List.mem_append_right _ (List.mem_singleton_self st))
        rw [hstages]
        exact List.mem_replicate.2 ⟨hrepeats.ne', rfl⟩
      have hknown : f ∈ knownFilters := List.mem_of_find?_eq_some hfirst
      exact drawnFrom_of_applyTimes (copies_of_name f hknown hname) happ
  | saved hdev hr hs ih =>
    apply ih
    intro st hst
    exact hsince st (List.mem_append_left _ hst)

theorem drawnFrom_of_passes {program : String} {done rest : List Statement} {E : List (Event Picture)}
    (h : (session engine profile program).Passes none w done E (some image') w')
    (hnames : ∀ st b w₁, (session engine profile program).Reaches w (done ++ rest) st b w₁ →
      ∀ name ∈ st.stages knownFilters, name ∈ copyingNames) :
    ∃ loaded, (session engine profile program).LastLoaded w done loaded ∧
      image'.DrawnFrom loaded := by
  have hregistry : (session engine profile program).registry = .ofList knownFilters := rfl
  cases sourced_of_passes hregistry h with
  | @loaded before since st path b loaded _ w₁ w₂ _ E hpass hr hyields hsince hdev =>
    refine ⟨loaded, ⟨before, st, since, path, b, w₁, w₂, E, rfl, hpass, hr, hyields, hsince⟩, ?_⟩
    apply drawnFrom_of_developed hdev
    intro st' hst'
    obtain ⟨b₁, w₁, hreach⟩ :=
      h.reaches (List.mem_append_right _ (List.mem_cons_of_mem _ hst')) rest
    exact hnames st' b₁ w₁ hreach

/-- No new colours: if a run applies no filters but those that copy pixels, all that comes into the
buffer, and all that is saved, is drawn from the image that was loaded last. -/
theorem no_new_colours (engine : Engine) (profile : EngineProfile) (program : String)
    (tokens : List Token) (w : Disk)
    (hnames : ∀ st b w', (session engine profile program).Reaches w (script ⟨tokens⟩) st b w' →
      ∀ name ∈ st.stages knownFilters, name ∈ copyingNames) :
    let s := session engine profile program
    (∀ done E image w', done <+: script ⟨tokens⟩ → s.Passes none w done E (some image) w' →
      ∃ loaded, s.LastLoaded w done loaded ∧ image.DrawnFrom loaded) ∧
    (∀ before e after image,
      Event.visible ((s.runTokens tokens).run w).events = before ++ e :: after →
      e.handed? = some image →
      ∃ done st rest E w' path asked loaded, script ⟨tokens⟩ = done ++ st :: rest ∧
        s.Passes none w done E (some image) w' ∧ st.request = some (.save path) ∧
        before = E ++ asked ∧ HandsOver path image asked e ∧ s.LastLoaded w done loaded ∧
        image.DrawnFrom loaded) ∧
    (∀ f ∈ knownFilters, f.name ∈ copyingNames → ∀ requested xMode yMode p p' v,
      ((s.service.applyFilter p f requested xMode yMode).run v).result = .ok p' →
        p'.DrawnFrom p) := by
  intro s
  refine ⟨?_, ?_, ?_⟩
  · rintro done E image w' ⟨rest, hsplit⟩ h
    rw [← hsplit] at hnames
    exact drawnFrom_of_passes h hnames
  · intro before e after image hevents he
    have hrun : ((s.executeAll none (script ⟨tokens⟩)).visible.run w).events =
        before ++ e :: after := by
      rw [← hevents, runTokens, run_runFrom]
      rfl
    obtain ⟨done, st, rest, E, w', path, asked, hsplit, hdone, hr, hbefore, hhands⟩ :=
      handsOver_of_run hrun he
    rw [hsplit] at hnames
    obtain ⟨loaded, hloaded, hdrawn⟩ := drawnFrom_of_passes hdone hnames
    exact ⟨done, st, rest, E, w', path, asked, loaded, hsplit, hdone, hr, hbefore, hhands, hloaded,
      hdrawn⟩
  · intro f hf hname requested xMode yMode p p' v h
    exact NamedFilter.drawnFrom_of_applied (copies_of_name f hf hname)
      ((f.result_apply engine requested xMode yMode p v).symm.trans h)

theorem no_new_colours_twice :
    let s := session nearestEngine {} "scaler"
    let disk : Disk := ⟨[(["a.png"], .picture .png (.bytes (.ofSamples 2 1 3 UInt8.ofNat)))]⟩
    let tokens : List Token :=
      ["/LOAD", "a.png", "/RESIZE", "5x0", "scale2X(2)", "/SAVE", "b.png"].map some
    ∃ e ∈ Event.visible ((s.runTokens tokens).run disk).events, ∃ image, e.handed? = some image ∧
      ∃ done loaded, done <+: script ⟨tokens⟩ ∧ s.LastLoaded disk done loaded ∧
        image.DrawnFrom loaded := by
  intro s disk tokens
  have hnames : ∀ st ∈ script ⟨tokens⟩, ∀ name ∈ st.stages knownFilters, name ∈ copyingNames := by
    decide +kernel
  have hcolours := no_new_colours nearestEngine {} "scaler" tokens disk
    fun st _ _ hst ↦ hnames st hst.mem
  have hsaved : (Event.visible ((s.runTokens tokens).run disk).events).any (·.handed?.isSome) := by
    decide +kernel
  obtain ⟨e, hmem, he⟩ := List.any_eq_true.1 hsaved
  obtain ⟨image, himage⟩ := Option.isSome_iff_exists.1 he
  obtain ⟨before, after, hevents⟩ := List.append_of_mem hmem
  obtain ⟨done, st, rest, E, w', path, asked, loaded, hsplit, -, -, -, -, hloaded, hdrawn⟩ :=
    hcolours.2.1 before e after image hevents himage
  refine ⟨e, hmem, image, himage, done, loaded, ?_, hloaded, hdrawn⟩
  rw [hsplit]
  exact List.prefix_append done (st :: rest)

end FileService

end BatchScaler

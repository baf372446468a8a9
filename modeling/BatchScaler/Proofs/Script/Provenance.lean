import Mathlib.Data.List.Induction
import BatchScaler.Proofs.Filter.Resolution
import BatchScaler.Proofs.Script.Execution
import BatchScaler.Proofs.Service.Rehearsal

namespace BatchScaler

variable {σ ι κ : Type}

open Session

def Statement.IsLoad (st : Statement) : Prop :=
  ∃ path, st.request = some (.load path)

def Statement.stages (filters : List (NamedFilter κ)) (st : Statement) : List String :=
  match st.request with
  | some (.resize _ filter) =>
    match FilterSpec.parse filter with
    | .ok spec =>
      match Registry.first? filters spec.name with
      | some f => List.replicate spec.repeats f.name
      | none => []
    | .error _ => []
  | _ => []

namespace ImageService

variable (service : ImageService σ ι κ)

inductive Applied (f : NamedFilter κ) (requested : Size) : Nat → ι → σ → ι → σ → Prop
  | zero (image : ι) (w : σ) : Applied f requested 0 image w image w
  | succ {n : Nat} {image image' image'' : ι} {w w' w'' : σ} :
      (service.applyFilter image f requested .constantExtension .constantExtension).Yields w
        image' w' →
      Applied f requested n image' w' image'' w'' →
      Applied f requested (n + 1) image w image'' w''

inductive Saved (image : ι) (path : String) (w : σ) : σ → Prop
  | plain {w' : σ} : isJpegPath path = false → (service.save image path).Yields w () w' →
      Saved image path w w'
  | jpeg {w' w'' : σ} : isJpegPath path = true →
      (service.hasEncoder jpegMime).Yields w true w' →
      (service.saveWithQuality image path jpegMime jpegQuality).Yields w' () w'' →
      Saved image path w w''

/-- What statements that load nothing make of an image, which they get in the state `w`. -/
inductive Developed (filters : List (NamedFilter κ)) (image : ι) (w : σ) :
    List Statement → ι → σ → Prop
  | loaded : Developed filters image w [] image w
  | resized {since : List Statement} {st : Statement} {size filter : String}
      {dimensions : Dimensions} {spec : FilterSpec} {f : NamedFilter κ} {image' image'' : ι}
      {w' w'' : σ} :
      Developed filters image w since image' w' →
      st.request = some (.resize size filter) →
      Dimensions.parse size = .ok (.ok dimensions) → FilterSpec.parse filter = .ok spec →
      Registry.first? filters spec.name = some f →
      service.Applied f ⟨dimensions.width, dimensions.height⟩ spec.repeats image' w' image'' w'' →
      Developed filters image w (since ++ [st]) image'' w''
  | saved {since : List Statement} {st : Statement} {path : String} {image' : ι} {w' w'' : σ} :
      Developed filters image w since image' w' →
      st.request = some (.save path) → service.Saved image' path w' w'' →
      Developed filters image w (since ++ [st]) image' w''

end ImageService

def Event.handed? : Event ι → Option ι
  | save _ image | saveWithQuality _ image _ _ => some image
  | _ => none

/-- How a save hands an image over: what it asks first, and then the event itself. -/
inductive HandsOver (path : String) (image : ι) : List (Event ι) → Event ι → Prop
  | plain : isJpegPath path = false → HandsOver path image [] (.save path image)
  | jpeg : isJpegPath path = true → HandsOver path image [.hasEncoder jpegMime]
      (.saveWithQuality path image jpegMime jpegQuality)

namespace Session

open BatchScaler.Action

variable (s : Session σ ι κ)

/-- Where the image in the buffer comes from: from the last load, and from what the statements since
have made of it. -/
inductive Sourced (filters : List (NamedFilter κ)) (w : σ) :
    List Statement → Option ι → σ → Prop
  | empty {done : List Statement} {w' : σ} :
      (∀ st ∈ done, ¬ st.IsLoad) → Sourced filters w done none w'
  | loaded {before since : List Statement} {st : Statement} {path : String} {b : Option ι}
      {image image' : ι} {w₁ w₂ w' : σ} {E : List (Event ι)} :
      s.Passes none w before E b w₁ →
      st.request = some (.load path) → (s.service.load path).Yields w₁ image w₂ →
      (∀ st ∈ since, ¬ st.IsLoad) → s.service.Developed filters image w₂ since image' w' →
      Sourced filters w (before ++ st :: since) (some image') w'

variable {s}

theorem applied_of_yields {f : NamedFilter κ} {requested : Size} {n : Nat} {image image' : ι}
    {w w' : σ} (h : (s.applyTimes f requested n image).Yields w image' w') :
    s.service.Applied f requested n image w image' w' := by
  induction n generalizing image w with
  | zero =>
    obtain ⟨rfl, rfl⟩ := yields_pure.1 h
    exact .zero image w
  | succ n ih =>
    obtain ⟨image₁, w₁, hfirst, hrest⟩ := yields_bind.1 h
    exact .succ (s.yields_applyOnce.1 hfirst) (ih hrest)

/-- A statement that loads nothing adds to what was made of the image. -/
theorem Sourced.extend {filters : List (NamedFilter κ)} {w w₁ w₂ : σ} {done : List Statement}
    {st : Statement} {request : Request} {image image' : ι}
    (h : s.Sourced filters w done (some image) w₁) (hr : st.request = some request)
    (hload : ∀ path, request ≠ .load path)
    (hnext : ∀ {image₀ : ι} {w₀ : σ} {since : List Statement},
      s.service.Developed filters image₀ w₀ since image w₁ →
        s.service.Developed filters image₀ w₀ (since ++ [st]) image' w₂) :
    s.Sourced filters w (done ++ [st]) (some image') w₂ := by
  cases h with
  | loaded hpass hfirst hyields hsince hdev =>
    rw [List.append_assoc, List.cons_append]
    refine .loaded hpass hfirst hyields ?_ (hnext hdev)
    intro st' hst'
    rcases List.mem_append.1 hst' with h | h
    · exact hsince st' h
    · rw [List.mem_singleton.1 h]
      rintro ⟨path, hpath⟩
      rw [hr] at hpath
      exact hload path (Option.some.inj hpath)

theorem Sourced.step {filters : List (NamedFilter κ)} (hs : s.registry = .ofList filters)
    {w w₁ w₂ : σ} {done : List Statement} {st : Statement} {b b' : Option ι}
    {E E' : List (Event ι)} (hpass : s.Passes none w done E b w₁)
    (h : s.Sourced filters w done b w₁) (hstep : s.Advances w₁ st.request b E' b' w₂) :
    s.Sourced filters w (done ++ [st]) b' w₂ := by
  generalize hr : st.request = request at hstep
  cases hstep with
  | load hl =>
    exact .loaded hpass hr hl (fun st h ↦ absurd h List.not_mem_nil) .loaded
  | resize hd hf hresolve ha =>
    rw [hs, Registry.resolve_ofList] at hresolve
    exact h.extend hr (fun _ ↦ Request.noConfusion) fun hdev ↦
      .resized hdev hr hd hf hresolve (applied_of_yields ha)
  | save hj hs =>
    exact h.extend hr (fun _ ↦ Request.noConfusion) fun hdev ↦ .saved hdev hr (.plain hj hs)
  | saveWithQuality hj he hq =>
    exact h.extend hr (fun _ ↦ Request.noConfusion) fun hdev ↦ .saved hdev hr (.jpeg hj he hq)

theorem sourced_of_passes {filters : List (NamedFilter κ)} (hs : s.registry = .ofList filters)
    {w w' : σ} {done : List Statement} {b : Option ι} {E : List (Event ι)}
    (h : s.Passes none w done E b w') : s.Sourced filters w done b w' := by
  induction done using List.reverseRecOn generalizing b w' E with
  | nil =>
    obtain ⟨-, rfl, -⟩ := passes_nil.1 h
    exact .empty fun st h ↦ absurd h List.not_mem_nil
  | append_singleton done st ih =>
    obtain ⟨E₁, b₁, w₁, E₂, hdone, hst, rfl⟩ := passes_append.1 h
    exact (ih hdone).step hs hdone (advances_of_enact (passes_singleton.1 hst))

theorem split_append {α : Type} {front back before after : List α} {e : α}
    (h : front ++ back = before ++ e :: after) :
    (∃ later, front = before ++ e :: later) ∨
      ∃ earlier, before = front ++ earlier ∧ back = earlier ++ e :: after := by
  rcases List.append_eq_append_iff.1 h with ⟨earlier, hbefore, hback⟩ | ⟨later, hfront, hlater⟩
  · exact .inr ⟨earlier, hbefore, hback⟩
  · cases later with
    | nil => exact .inr ⟨[], by simpa using hfront.symm, hlater.symm⟩
    | cons first later =>
      obtain ⟨rfl, -⟩ := List.cons.inj hlater
      exact .inl ⟨later, hfront⟩

theorem handsOver_of_enacts {w : σ} {request : Option Request} {b : Option ι}
    {o : Outcome (Event ι) σ (Flow ι)} (hstep : s.Enacts w request b o)
    {before after : List (Event ι)} {e : Event ι} (h : o.events = before ++ e :: after) {image : ι}
    (he : e.handed? = some image) :
    b = some image ∧ ∃ path, request = some (.save path) ∧ HandsOver path image before e := by
  have hmem : e ∈ o.events := h ▸ List.mem_append_right before List.mem_cons_self
  cases hstep with
  | save hj ho =>
    obtain ⟨rfl, hfirst⟩ | ⟨later, rfl, hlater⟩ := List.cons_eq_append_iff.1 h
    · obtain ⟨rfl, -⟩ := List.cons.inj hfirst
      cases he
      exact ⟨rfl, _, rfl, .plain hj⟩
    · simp at hlater
  | saveWithQuality hj hask ho =>
    obtain ⟨rfl, hfirst⟩ | ⟨later, rfl, hlater⟩ := List.cons_eq_append_iff.1 h
    · obtain ⟨rfl, -⟩ := List.cons.inj hfirst
      cases he
    · obtain ⟨rfl, hsecond⟩ | ⟨later', rfl, hlater'⟩ := List.cons_eq_append_iff.1 hlater
      · obtain ⟨rfl, -⟩ := List.cons.inj hsecond
        cases he
        exact ⟨rfl, _, rfl, .jpeg hj⟩
      · simp at hlater'
  | resize hd hf hr ho =>
    rcases List.mem_cons.1 hmem with rfl | hmem
    · cases he
    · have happ := applyTimes_isApplication s _ _ _ _ w e (ho ▸ hmem)
      rcases happ with ⟨image', name, requested, rfl⟩ | rfl | rfl <;> cases he
  | exit | unreadableSize | unreadableCount => exact absurd hmem List.not_mem_nil
  | unknown | incomplete | load | badSize | nothingToResize | nothingToSave | probeFault =>
    obtain rfl := List.mem_singleton.1 hmem
    cases he
  | unknownFilter | missingEncoder =>
    rcases List.mem_cons.1 hmem with rfl | hmem
    · cases he
    · obtain rfl := List.mem_singleton.1 hmem
      cases he

/-- An image is handed to the service by a save that the statements come to, and it is the one that
is in the buffer then. -/
theorem handsOver_of_run {b : Option ι} {w : σ} {sts : List Statement}
    {before after : List (Event ι)} {e : Event ι}
    (h : ((s.executeAll b sts).visible.run w).events = before ++ e :: after) {image : ι}
    (he : e.handed? = some image) :
    ∃ done st rest E w' path asked, sts = done ++ st :: rest ∧
      s.Passes b w done E (some image) w' ∧ st.request = some (.save path) ∧
      before = E ++ asked ∧ HandsOver path image asked e := by
  induction sts generalizing b w before with
  | nil => simp [executeAll] at h
  | cons st rest ih =>
    have hhere : ∀ later, ((s.enact st.request b).visible.run w).events = before ++ e :: later →
        b = some image ∧ ∃ path, st.request = some (.save path) ∧ HandsOver path image before e :=
      fun later hlater ↦ handsOver_of_enacts (enacts_enact w st.request b) hlater he
    -- The event belongs to the first statement, or it comes after all that the first one does.
    rcases s.stops_or_passes b w st with hstop | ⟨E₁, b₁, w₁, hfirst⟩
    · rw [run_of_stops hstop] at h
      obtain ⟨rfl, path, hr, hhands⟩ := hhere after h
      exact ⟨[], st, rest, [], w, path, before, rfl, passes_nil.2 ⟨rfl, rfl, rfl⟩, hr, rfl, hhands⟩
    · have hrun := run_of_passes hfirst rest
      rw [List.singleton_append] at hrun
      rw [hrun, Outcome.events_after] at h
      rcases split_append h with ⟨later, hE⟩ | ⟨earlier, rfl, hearlier⟩
      · rw [passes_singleton.1 hfirst] at hhere
        obtain ⟨rfl, path, hr, hhands⟩ := hhere later hE
        exact ⟨[], st, rest, [], w, path, before, rfl, passes_nil.2 ⟨rfl, rfl, rfl⟩, hr, rfl,
          hhands⟩
      · obtain ⟨done, st', rest', E₂, w', path, asked, rfl, hdone, hr, rfl, hhands⟩ :=
          ih hearlier
        exact ⟨st :: done, st', rest', E₁ ++ E₂, w', path, asked, rfl,
          passes_append.2 ⟨E₁, b₁, w₁, E₂, hfirst, hdone, rfl⟩, hr,
          (List.append_assoc E₁ E₂ asked).symm, hhands⟩

end Session

namespace Rehearsal

theorem history_of_applied {r : Rehearsal} {f : NamedFilter SketchedFilter} {requested : Size}
    {n : Nat} {image image' : SketchedImage} {w w' : Tally}
    (h : r.service.Applied f requested n image w image' w') :
    image'.source = image.source ∧ image'.history = image.history ++ List.replicate n f.name := by
  induction h with
  | zero => exact ⟨rfl, (List.append_nil _).symm⟩
  | succ hfirst hrest ih =>
    obtain rfl := applyFilter_yields hfirst
    refine ⟨ih.1, ih.2.trans ?_⟩
    rw [SketchedImage.enlarged, List.append_assoc, List.replicate_succ]
    rfl

theorem history_of_developed {r : Rehearsal} {filters : List (NamedFilter SketchedFilter)}
    {image image' : SketchedImage} {w w' : Tally} {since : List Statement}
    (h : r.service.Developed filters image w since image' w') :
    image'.source = image.source ∧
      image'.history = image.history ++ since.flatMap (Statement.stages filters) := by
  induction h with
  | loaded => exact ⟨rfl, (List.append_nil _).symm⟩
  | @resized since st size filter dimensions spec f _ _ _ _ hdev hr hd hf hfirst happ ih =>
    obtain ⟨hsource, hhistory⟩ := history_of_applied happ
    have hstages : st.stages filters = List.replicate spec.repeats f.name := by
      simp only [Statement.stages, hr, hf, hfirst]
    refine ⟨hsource.trans ih.1, ?_⟩
    rw [hhistory, ih.2, List.append_assoc, List.flatMap_append, List.flatMap_singleton, hstages]
  | @saved since st path _ _ _ hdev hr hs ih =>
    have hstages : st.stages filters = [] := by simp only [Statement.stages, hr]
    refine ⟨ih.1, ?_⟩
    rw [ih.2, List.flatMap_append, List.flatMap_singleton, hstages, List.append_nil]

theorem history_of_sourced {r : Rehearsal} {filters : List (NamedFilter SketchedFilter)}
    {program : String} {done : List Statement} {image : SketchedImage} {w w' : Tally}
    (h : (r.session filters program).Sourced filters w done (some image) w') :
    ∃ before st path since, done = before ++ st :: since ∧ st.request = some (.load path) ∧
      (∀ st ∈ since, ¬ st.IsLoad) ∧ image.source = path ∧
      image.history = since.flatMap (Statement.stages filters) := by
  cases h with
  | loaded hpass hload hyields hsince hdev =>
    obtain ⟨hsource, hhistory⟩ := load_yields hyields
    obtain ⟨hsource', hhistory'⟩ := history_of_developed hdev
    refine ⟨_, _, _, _, rfl, hload, hsince, hsource'.trans hsource, ?_⟩
    rw [hhistory', hhistory, List.nil_append]

end Rehearsal

namespace Session

open BatchScaler.Action

/-- Whatever statements are carried out, the image in the buffer is what the last load has yielded,
resized by every statement since; and no other image is ever saved. -/
theorem buffer_provenance {s : Session σ ι κ} {filters : List (NamedFilter κ)}
    (hs : s.registry = .ofList filters) (tokens : List Token) (w : σ) :
    (∀ done E b w', done <+: script ⟨tokens⟩ → s.Passes none w done E b w' →
      s.Sourced filters w done b w') ∧
    (∀ before e after image,
      Event.visible ((s.runTokens tokens).run w).events = before ++ e :: after →
      e.handed? = some image →
      ∃ done st rest E w' path asked, script ⟨tokens⟩ = done ++ st :: rest ∧
        s.Passes none w done E (some image) w' ∧ s.Sourced filters w done (some image) w' ∧
        st.request = some (.save path) ∧ before = E ++ asked ∧ HandsOver path image asked e) ∧
    (∀ (r : Rehearsal) filters program tally done E image w', done <+: script ⟨tokens⟩ →
      (r.session filters program).Passes none tally done E (some image) w' →
      ∃ before st path since, done = before ++ st :: since ∧ st.request = some (.load path) ∧
        (∀ st ∈ since, ¬ st.IsLoad) ∧ image.source = path ∧
        image.history = since.flatMap (Statement.stages filters)) := by
  refine ⟨fun done E b w' _ h ↦ sourced_of_passes hs h, ?_, ?_⟩
  · intro before e after image hevents he
    have hrun : ((s.executeAll none (script ⟨tokens⟩)).visible.run w).events =
        before ++ e :: after := by
      rw [← hevents, runTokens, run_runFrom]
      rfl
    obtain ⟨done, st, rest, E, w', path, asked, hsplit, hdone, hr, hbefore, hhands⟩ :=
      handsOver_of_run hrun he
    exact ⟨done, st, rest, E, w', path, asked, hsplit, hdone, sourced_of_passes hs hdone, hr,
      hbefore, hhands⟩
  · intro r filters program tally done E image w' _ h
    exact Rehearsal.history_of_sourced (sourced_of_passes rfl h)

theorem buffer_provenance_of_two_cycles :
    ∃ E w', Rehearsal.sample.Passes none {} (script ⟨["/LOAD", "a", "/RESIZE", "0x6", "pixel(2)",
        "/SAVE", "c.png", "/LOAD", "b", "/RESIZE", "0x0", "scale2X"].map some⟩) E
        (some ⟨"b", 10, 14, ["Scale2x"]⟩) w' ∧
      Rehearsal.sample.Sourced [⟨"Pixel", {}⟩, ⟨"PIXEL", { scale := 3 }⟩, ⟨"Scale2x", { scale := 2 }⟩]
        {} (script ⟨["/LOAD", "a", "/RESIZE", "0x6", "pixel(2)", "/SAVE", "c.png", "/LOAD", "b",
          "/RESIZE", "0x0", "scale2X"].map some⟩) (some ⟨"b", 10, 14, ["Scale2x"]⟩) w' := by
  refine ⟨_, _, passes_of_result (by decide +kernel), ?_⟩
  exact (buffer_provenance rfl _ _).1 _ _ _ _ (List.prefix_refl _)
    (passes_of_result (by decide +kernel))

end Session

end BatchScaler

import BatchScaler.Proofs.Filter.Resolution
import BatchScaler.Proofs.Service.Calls
import BatchScaler.Service.Rehearsal

namespace BatchScaler

namespace Rehearsal

open BatchScaler.Action

def session (r : Rehearsal) (filters : List (NamedFilter SketchedFilter))
    (program : String := "image-resizer") : Session Tally SketchedImage SketchedFilter :=
  ⟨r.service, .ofList filters, program⟩

def sample : Session Tally SketchedImage SketchedFilter :=
  session { files := [("a", 4, 3), ("b", 5, 7)] }
    [⟨"Pixel", {}⟩, ⟨"PIXEL", { scale := 3 }⟩, ⟨"Scale2x", { scale := 2 }⟩]

def sampleWithJpeg : Session Tally SketchedImage SketchedFilter :=
  session { files := [("a", 4, 3)], encoders := ["image/jpeg"] } [⟨"Scale2x", { scale := 2 }⟩]

def sampleWithFailure : Session Tally SketchedImage SketchedFilter :=
  session { files := [("a", 4, 3)] } [⟨"Pixel", { failAt := some 2 }⟩]

theorem load_yields {r : Rehearsal} {path : String} {w w' : Tally} {image : SketchedImage}
    (h : (r.load path).Yields w image w') : image.source = path ∧ image.history = [] := by
  obtain ⟨h, -⟩ := h
  unfold load at h
  split at h <;> cases h
  exact ⟨rfl, rfl⟩

theorem applyFilter_yields {image image' : SketchedImage} {f : NamedFilter SketchedFilter}
    {requested : Size} {w w' : Tally} (h : (applyFilter image f requested).Yields w image' w') :
    image' = image.enlarged f.name f.method.scale requested := by
  obtain ⟨⟨⟩, w₁, -, hcounted⟩ := yields_bind.1 h
  obtain ⟨n, w₂, -, hmade⟩ := yields_bind.1 hcounted
  obtain ⟨hresult, -⟩ := hmade
  split at hresult <;> cases hresult
  rfl

theorem mayAsk_filter {r : Rehearsal} {filters : List (NamedFilter SketchedFilter)}
    {program : String} {image : SketchedImage} {f : NamedFilter SketchedFilter} {requested : Size}
    {xMode yMode : EdgeMode}
    (h : (r.session filters program).MayAsk (.applyFilter image f requested xMode yMode)) :
    f ∈ filters := by
  obtain ⟨name, hname⟩ := h
  have hfirst : Registry.first? filters name = some f :=
    (Registry.resolve_ofList filters name).symm.trans hname
  exact List.mem_of_find?_eq_some hfirst

theorem result_load (r : Rehearsal) (path : String) (w w' : Tally) :
    ((r.load path).run w).result = ((r.load path).run w').result := by
  unfold load
  split <;> rfl

theorem result_applyFilter {f : NamedFilter SketchedFilter} (hf : f.method.failAt = none)
    (image : SketchedImage) (requested : Size) (w : Tally) :
    ((applyFilter image f requested).run w).result =
      .ok (image.enlarged f.name f.method.scale requested) := by
  have hnever : ∀ n : Int, (f.method.failAt = some n) = False := by simp [hf]
  simp only [applyFilter, hnever, if_false]
  rfl

theorem run_save (r : Rehearsal) (path : String) (w : Tally) :
    (r.save path).run w = ⟨[], ((r.save path).run {}).result, w⟩ := by
  unfold save
  split <;> rfl

/-- A rehearsal only counts applications, so it is steady if no filter is to fail at one of them. -/
theorem steady (r : Rehearsal) {filters : List (NamedFilter SketchedFilter)} (program : String)
    (h : ∀ f ∈ filters, f.method.failAt = none) (w : Tally) :
    (r.session filters program).Steady w := by
  intro calls call _ hcall
  generalize (r.session filters program).service.stateAfter w calls = w'
  cases call with
  | load path =>
    simp only [ImageService.answer, run_bind_pure]
    exact congrArg (Except.map _) (r.result_load path w' w)
  | applyFilter image f requested xMode yMode =>
    have hf := h f (mayAsk_filter hcall)
    simp only [ImageService.answer, run_bind_pure]
    exact congrArg (Except.map _) ((result_applyFilter hf image requested w').trans
      (result_applyFilter hf image requested w).symm)
  | save image path | saveWithQuality image path mime quality =>
    simp only [ImageService.answer, run_bind_pure, session, service]
    rw [r.run_save path w', r.run_save path w]
    rfl
  | hasEncoder mime => rfl

end Rehearsal

end BatchScaler

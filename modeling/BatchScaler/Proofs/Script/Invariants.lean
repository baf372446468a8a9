import BatchScaler.Proofs.Script.Provenance

namespace BatchScaler

variable {σ ι κ : Type} {P : ι → Prop} {Q : σ → Prop}

namespace ImageService

/-- Every request but a load keeps `P` of the image and `Q` of the state. -/
structure Keeps (service : ImageService σ ι κ) (P : ι → Prop) (Q : σ → Prop) : Prop where
  applyFilter {image image' : ι} {f : NamedFilter κ} {requested : Size} {xMode yMode : EdgeMode}
    {w w' : σ} : P image → Q w →
    (service.applyFilter image f requested xMode yMode).Yields w image' w' → P image' ∧ Q w'
  save {image : ι} {path : String} {w w' : σ} : P image → Q w →
    (service.save image path).Yields w () w' → Q w'
  hasEncoder {mime : String} {answer : Bool} {w w' : σ} : Q w →
    (service.hasEncoder mime).Yields w answer w' → Q w'
  saveWithQuality {image : ι} {path mime : String} {quality : ℕ} {w w' : σ} : P image → Q w →
    (service.saveWithQuality image path mime quality).Yields w () w' → Q w'

def Brings (service : ImageService σ ι κ) (P : ι → Prop) (Q : σ → Prop) : Prop :=
  ∀ path w image w', Q w → (service.load path).Yields w image w' → P image ∧ Q w'

theorem Keeps.applied {service : ImageService σ ι κ} (hkeeps : service.Keeps P Q)
    {f : NamedFilter κ} {requested : Size} {n : ℕ} {image image' : ι} {w w' : σ}
    (himage : P image) (hw : Q w) (h : service.Applied f requested n image w image' w') :
    P image' ∧ Q w' := by
  induction h with
  | zero => exact ⟨himage, hw⟩
  | succ hfirst hrest ih =>
    obtain ⟨himage₁, hw₁⟩ := hkeeps.applyFilter himage hw hfirst
    exact ih himage₁ hw₁

end ImageService

namespace Session

variable {s : Session σ ι κ} {b b' : Option ι} {w w' : σ} {E : List (Event ι)}
  {done : List Statement}

theorem Advances.keeps (hkeeps : s.service.Keeps P Q) {st : Statement}
    (hload : st.IsLoad → s.service.Brings P Q) (hb : ∀ image ∈ b, P image) (hw : Q w)
    (h : s.Advances w st.request b E b' w') : (∃ image, b' = some image ∧ P image) ∧ Q w' := by
  generalize hr : st.request = request at h
  cases h with
  | load hl =>
    obtain ⟨himage, hw'⟩ := hload ⟨_, hr⟩ _ _ _ _ hw hl
    exact ⟨⟨_, rfl, himage⟩, hw'⟩
  | resize hd hf hresolve ha =>
    obtain ⟨himage, hw'⟩ := hkeeps.applied (hb _ rfl) hw (applied_of_yields ha)
    exact ⟨⟨_, rfl, himage⟩, hw'⟩
  | save hj hs => exact ⟨⟨_, rfl, hb _ rfl⟩, hkeeps.save (hb _ rfl) hw hs⟩
  | saveWithQuality hj he hq =>
    exact ⟨⟨_, rfl, hb _ rfl⟩, hkeeps.saveWithQuality (hb _ rfl) (hkeeps.hasEncoder hw he) hq⟩

theorem Passes.keeps (hkeeps : s.service.Keeps P Q)
    (hload : ∀ st ∈ done, st.IsLoad → s.service.Brings P Q) (hb : ∀ image ∈ b, P image) (hw : Q w)
    (h : s.Passes b w done E b' w') : (∀ image ∈ b', P image) ∧ Q w' := by
  induction done generalizing b w E with
  | nil =>
    obtain ⟨-, rfl, rfl⟩ := passes_nil.1 h
    exact ⟨hb, hw⟩
  | cons st done ih =>
    obtain ⟨E₁, b₁, w₁, E₂, hst, hdone, -⟩ := passes_cons.1 h
    have hadvance := advances_of_enact hst
    obtain ⟨⟨image, rfl, himage⟩, hw₁⟩ := hadvance.keeps hkeeps (hload st List.mem_cons_self) hb hw
    refine ih (fun st' hst' ↦ hload st' (List.mem_cons_of_mem st hst')) ?_ hw₁ hdone
    rintro _ ⟨⟩
    exact himage

theorem Advances.exists_image {request : Option Request} (h : s.Advances w request b E b' w') :
    ∃ image, b' = some image := by
  cases h <;> exact ⟨_, rfl⟩

theorem Passes.exists_image {image : ι} (h : s.Passes (some image) w done E b' w') :
    ∃ image', b' = some image' := by
  induction done generalizing image w E with
  | nil =>
    obtain ⟨-, rfl, -⟩ := passes_nil.1 h
    exact ⟨image, rfl⟩
  | cons st done ih =>
    obtain ⟨E₁, b₁, w₁, E₂, hst, hdone, -⟩ := passes_cons.1 h
    obtain ⟨image₁, rfl⟩ := (advances_of_enact hst).exists_image
    exact ih hdone

end Session

end BatchScaler

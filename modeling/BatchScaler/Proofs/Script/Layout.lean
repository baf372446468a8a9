import BatchScaler.Proofs.Script.Invariants
import BatchScaler.Proofs.Script.ResizedSize
import BatchScaler.Proofs.Service.Files

namespace BatchScaler.FileService

open BatchScaler.Action Session

variable {engine : Engine} {profile : EngineProfile} {program : String}
  {C : StoredPicture → Prop} {B : ℕ → Prop} {p : Picture} {b : Option Picture} {w w' : Disk}
  {done : List Statement} {E : List (Event Picture)}

/-- Filters keep the layout and the number of bands, and what is saved of such a picture is stored as
the format keeps it. -/
theorem keeps_layout
    (hstored : ∀ (p : Picture) (format : FileFormat), p.InLayout → B p.bands →
      C (.bytes (format.keep p))) :
    (service engine profile).Keeps (fun p ↦ p.InLayout ∧ B p.bands) (·.Stores C) where
  applyFilter := by
    rintro p p' f requested xMode yMode w w' ⟨hp, hbands⟩ hw h
    obtain ⟨-, hsame, hsides⟩ := size_of_applyFilter hp.sides h
    obtain rfl := (NamedFilter.keepsState_apply engine f requested xMode yMode p).eq_of_yields h
    exact ⟨⟨⟨hsides, hsame ▸ hp.colour⟩, hsame ▸ hbands⟩, hw⟩
  save := by
    rintro p path w w' ⟨hp, hbands⟩ hw h
    obtain ⟨format, place, -, -, -, -, rfl⟩ := write_yields_iff.1 (save_yields_iff.1 h)
    exact hw.put (hstored p format hp hbands)
  hasEncoder := by
    intro mime answer w w' hw h
    obtain ⟨-, rfl⟩ := yields_pure.1 h
    exact hw
  saveWithQuality := by
    rintro p path mime quality w w' ⟨hp, hbands⟩ hw h
    obtain ⟨format, place, -, -, -, -, rfl⟩ := write_yields_iff.1 (write_of_saveWithQuality h)
    exact hw.put (hstored p format hp hbands)

theorem brings_layout
    (hread : ∀ (content : StoredPicture) (format : FileFormat), C content →
      (content.read format).InLayout ∧ B (content.read format).bands) :
    (service engine profile).Brings (fun p ↦ p.InLayout ∧ B p.bands) (·.Stores C) := by
  intro path w p w' hw h
  obtain ⟨-, -, ⟨format, content, hfind, rfl⟩, rfl⟩ := load_yields_iff.1 h
  exact ⟨hread content format (hw.of_find? hfind), hw⟩

theorem layout_of_passes
    (hstored : ∀ (p : Picture) (format : FileFormat), p.InLayout → B p.bands →
      C (.bytes (format.keep p)))
    (hread : ∀ (content : StoredPicture) (format : FileFormat), C content →
      (content.read format).InLayout ∧ B (content.read format).bands)
    (hw : w.Stores C) (h : (session engine profile program).Passes none w done E (some p) w') :
    p.InLayout ∧ B p.bands := by
  obtain ⟨hbuffer, -⟩ := h.keeps (Q := (·.Stores C)) (keeps_layout hstored)
    (fun _ _ _ ↦ brings_layout hread) (fun p hnone ↦ absurd hnone (Option.not_mem_none p)) hw
  exact hbuffer p rfl

theorem inLayout_of_passes (hdisk : w.Stores StoredPicture.Decoded)
    (h : (session engine profile program).Passes none w done E (some p) w') : p.InLayout :=
  (layout_of_passes (B := fun _ ↦ True) (fun _ _ hp _ ↦ StoredPicture.decoded_of_inLayout hp)
    (fun _ _ hcontent ↦ ⟨StoredPicture.inLayout_read hcontent, trivial⟩) hdisk h).1

theorem bands_le_of_passes (hdisk : w.Stores fun content ↦ content.Decoded ∧ content.bands ≤ 4)
    (h : (session engine profile program).Passes none w done E (some p) w') : p.bands ≤ 4 :=
  (layout_of_passes (B := (· ≤ 4))
    (fun p format hp hbands ↦ ⟨StoredPicture.decoded_of_inLayout hp,
      (format.bands_keep_le p).trans hbands⟩)
    (fun _ _ hcontent ↦ ⟨StoredPicture.inLayout_read hcontent.1,
      StoredPicture.bands_read_le hcontent.2⟩) hdisk h).2

theorem bands_of_passes (hp : p.InLayout) (hdone : ∀ st ∈ done, ¬ st.IsLoad)
    (h : (session engine profile program).Passes (some p) w done E b w') :
    ∃ p', b = some p' ∧ p'.bands = p.bands := by
  obtain ⟨p', rfl⟩ := h.exists_image
  obtain ⟨hbuffer, -⟩ := h.keeps
    (keeps_layout (B := (· = p.bands)) (C := fun _ ↦ True) fun _ _ _ _ ↦ trivial)
    (fun st hst hload ↦ absurd hload (hdone st hst))
    (by
      rintro _ ⟨⟩
      exact ⟨hp, rfl⟩)
    (fun _ _ _ _ ↦ trivial)
  exact ⟨p', rfl, (hbuffer p' rfl).2⟩

/-- A lossless format gives back what was in the buffer, but for where the picture stems from. -/
theorem reload_of_save (hp : p.InLayout) (hbands : p.bands ≤ 4) {path : String}
    {format : FileFormat} (hformat : format ∈ FileFormat.lossless)
    (hpath : FileFormat.ofPath? (visiblePath path) = some format)
    (h : (save profile p path).Yields w () w') :
    ∃ origin, (load profile (visiblePath path)).Yields w' { p with origin := origin } w' := by
  obtain ⟨format', hpath', hload⟩ := load_of_save h
  obtain rfl : format = format' := Option.some.inj (hpath.symm.trans hpath')
  obtain ⟨origin, horigin⟩ := StoredPicture.read_keep hformat hp hbands
  exact ⟨origin, horigin ▸ hload⟩

/-- One layout for all pictures in the buffer. The decoder is asked for no more than pixels and a
band; if it yields at most four bands, there are three or four in the buffer. -/
theorem one_layout (engine : Engine) (profile : EngineProfile) (program : String)
    (tokens : List Token) (w : Disk) (hdisk : w.Stores StoredPicture.Decoded) :
    let s := session engine profile program
    ∀ done E p w', done <+: script ⟨tokens⟩ → s.Passes none w done E (some p) w' →
      (p.size.Positive ∧ 3 ≤ p.bands ∧
        ((w.Stores fun content ↦ content.Decoded ∧ content.bands ≤ 4) → p.bands = 3 ∨ p.bands = 4) ∧
        p.samples.length = p.raster.width * p.raster.height * p.bands) ∧
      ((StoredPicture.bytes p).normalise = p ∧
        Picture.cast .uchar p.raster.width p.raster.height p.bands
          (p.samples.map fun s ↦ (s.toNat : ℚ)).toArray = { p with origin := none }) ∧
      (∀ since E' b w'', (∀ st ∈ since, ¬ st.IsLoad) → s.Passes (some p) w' since E' b w'' →
        ∃ p', b = some p' ∧ p'.bands = p.bands) ∧
      ∀ path format w'', p.bands ≤ 4 → format ∈ FileFormat.lossless →
        FileFormat.ofPath? (visiblePath path) = some format →
        (s.service.save p path).Yields w' () w'' →
        ∃ origin, (s.service.load (visiblePath path)).Yields w'' { p with origin := origin } w'' := by
  intro s done E p w' _ h
  have hp : p.InLayout := inLayout_of_passes hdisk h
  refine ⟨⟨hp.sides, hp.colour, ?_, p.length_samples⟩,
    ⟨StoredPicture.normalise_of_inLayout hp, p.cast_samples⟩, ?_, ?_⟩
  · intro hfour
    have hupper := bands_le_of_passes hfour h
    have hlower := hp.colour
    omega
  · intro since E' b w'' hsince hpass
    exact bands_of_passes hp hsince hpass
  · intro path format w'' hbands hformat hpath hsave
    exact reload_of_save hp hbands hformat hpath hsave

/-- A grey picture is doubled, fitted to three columns, saved and loaded again. -/
theorem one_layout_of_grey :
    let s := session nearestEngine {} "scaler"
    let grey : StoredPicture := .bytes (.ofSamples 2 1 1 UInt8.ofNat)
    let disk : Disk := ⟨[(["a.png"], .picture .png grey)]⟩
    let tokens : List Token := ["/LOAD", "a.png", "/RESIZE", "3x0", "scale2X"].map some
    ∃ E p w' w'' origin, s.Passes none disk (script ⟨tokens⟩) E (some p) w' ∧
      (p.size.Positive ∧ (p.bands = 3 ∨ p.bands = 4)) ∧ (StoredPicture.bytes p).normalise = p ∧
      (s.service.save p "b.png").Yields w' () w'' ∧
      (s.service.load "b.png").Yields w'' { p with origin := origin } w'' := by
  intro s grey disk tokens
  have hgrey : grey.Decoded := ⟨⟨by decide, by decide⟩, by decide⟩
  have hdisk : disk.Stores fun content ↦ content.Decoded ∧ content.bands ≤ 4 :=
    Disk.Stores.empty.put ⟨hgrey, by decide⟩
  let run := (s.executeAll none (script ⟨tokens⟩)).run disk
  have hrun : (run.result.toOption.bind fun flow ↦
      match flow with
      | .next b => b
      | .halt _ => none).isSome = true ∧
      (run.state.locate "b.png").toOption = some ["b.png"] ∧
        run.state.isDirectory ["b.png"] = false := by
    decide +kernel
  obtain ⟨hsome, hplace, hfree⟩ := hrun
  obtain ⟨p, hp⟩ : ∃ p, run.result = .ok (.next (some p)) := by
    rcases hresult : run.result with fault | (b | p) | status
    · rw [hresult] at hsome
      cases hsome
    · rw [hresult] at hsome
      cases hsome
    · exact ⟨p, rfl⟩
    · rw [hresult] at hsome
      cases hsome
  have hpass := passes_of_result hp
  have hlocate : run.state.locate "b.png" = .ok ["b.png"] := by
    cases hlocate : run.state.locate "b.png" with
    | error fault =>
      rw [hlocate] at hplace
      cases hplace
    | ok place =>
      rw [hlocate] at hplace
      rw [Option.some.inj hplace]
  have hsave : (s.service.save p "b.png").Yields run.state () _ :=
    save_yields_iff.2 (write_yields_iff.2 ⟨.png, _, by decide, hlocate, rfl, hfree, rfl⟩)
  obtain ⟨⟨hsides, -, hbands, -⟩, ⟨hnormal, -⟩, -, hreload⟩ :=
    one_layout nearestEngine {} "scaler" tokens disk (fun place format content hentry ↦
      (hdisk place format content hentry).1) _ _ p _ (List.prefix_refl _) hpass
  have hfour : p.bands ≤ 4 := by
    have := hbands hdisk
    omega
  obtain ⟨origin, hload⟩ := hreload "b.png" .png _ hfour (by decide) (by decide) hsave
  exact ⟨_, p, _, _, origin, hpass, ⟨hsides, hbands hdisk⟩, hnormal, hsave, hload⟩

end BatchScaler.FileService

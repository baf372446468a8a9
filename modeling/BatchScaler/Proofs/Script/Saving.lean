import BatchScaler.Proofs.Script.Step
import BatchScaler.Proofs.Text.Parts
import BatchScaler.Proofs.Text.Upper

namespace BatchScaler

def EndsAsJpeg (path : String) : Prop :=
  ∃ ending ∈ [".jpg", ".jpeg"], ending.toList <:+ (Text.lowerAscii path).toList

section Extension

variable {cs letters : List Char}

/-- What is no letter is the same in upper case, and nothing else becomes it. -/
theorem toUpper_eq_iff {c d : Char} (hd : d.isAlpha = false) : c.toUpper = d ↔ c = d := by
  rcases Text.toUpper_eq_or_isAlpha c with hc | ⟨hletter, hupper⟩
  · rw [hc]
  · constructor
    · rintro rfl
      cases hd.symm.trans hupper
    · rintro rfl
      cases hd.symm.trans hletter

theorem mem_map_toUpper {d : Char} (hd : d.isAlpha = false) :
    d ∈ cs.map Char.toUpper ↔ d ∈ cs := by
  simp only [List.mem_map, toUpper_eq_iff hd, exists_eq_right]

theorem map_toUpper_eq_iff (hletters : ∀ c ∈ letters, c.toLower = c) :
    cs.map Char.toUpper = letters.map Char.toUpper ↔ letters = cs.map Char.toLower := by
  have hself : letters.map Char.toLower = letters :=
    (List.map_congr_left hletters).trans (List.map_id letters)
  constructor
  · intro h
    have hlower := congrArg (List.map Char.toLower) h
    simp only [List.map_map, Function.comp_def, Text.toLower_toUpper] at hlower
    rw [hlower, hself]
  · rintro rfl
    simp only [List.map_map, Function.comp_def, Text.toUpper_toLower]

theorem fromLastDot_suffix (name : List Char) : fromLastDot name <:+ name := by
  unfold fromLastDot
  split
  · next hdot =>
    obtain ⟨front, hname⟩ := Text.eq_append_afterLast (List.contains_iff_mem.1 hdot)
    exact ⟨front, hname.symm⟩
  · exact List.nil_suffix

theorem fromLastDot_fileName_append (hdot : '.' ∉ cs) (hslash : '/' ∉ cs) (front : List Char) :
    fromLastDot (fileName (front ++ '.' :: cs)) = '.' :: cs := by
  have hname : fileName (front ++ '.' :: cs) = Text.afterLast '/' front ++ '.' :: cs :=
    Text.afterLast_append (List.not_mem_cons_of_ne_of_not_mem (by decide) hslash) front
  have hcontains : (Text.afterLast '/' front ++ '.' :: cs).contains '.' = true :=
    List.contains_iff_mem.2 (List.mem_append_right _ List.mem_cons_self)
  rw [hname, fromLastDot, if_pos hcontains, Text.afterLast_append_cons,
    Text.afterLast_of_not_mem hdot]

/-- The extension of a path is read off its end, whatever dots and slashes come before. -/
theorem fromLastDot_fileName_eq_iff (hdot : '.' ∉ letters) (hslash : '/' ∉ letters) :
    (fromLastDot (fileName cs)).map Char.toUpper = '.' :: letters ↔
      ∃ ending, ending <:+ cs ∧ ending.map Char.toUpper = '.' :: letters := by
  constructor
  · intro h
    exact ⟨_, (fromLastDot_suffix _).trans (Text.afterLast_suffix '/' cs), h⟩
  · rintro ⟨ending, ⟨front, rfl⟩, h⟩
    obtain ⟨d, back, rfl⟩ : ∃ d back, ending = d :: back := by
      cases ending with
      | nil => cases h
      | cons d back => exact ⟨d, back, rfl⟩
    rw [List.map_cons, List.cons.injEq] at h
    obtain ⟨hd, rfl⟩ := h
    obtain rfl := (toUpper_eq_iff (by decide)).1 hd
    rw [mem_map_toUpper (by decide)] at hdot hslash
    rw [fromLastDot_fileName_append hdot hslash]
    rfl

theorem extension_eq_iff (path : String) (letters : List Char) (hdot : '.' ∉ letters)
    (hslash : '/' ∉ letters) (hlower : ∀ c ∈ letters, c.toLower = c)
    (hforeign : ∀ c ∈ letters, ¬ Text.IsForeign c.toUpper) :
    extension path = String.ofList ('.' :: letters.map Char.toUpper) ↔
      '.' :: letters <:+ (Text.lowerAscii path).toList := by
  have hupper : ∀ c ∈ '.' :: letters.map Char.toUpper, ¬ Text.IsForeign c := by
    intro c hc
    rcases List.mem_cons.1 hc with rfl | hc
    · decide
    · obtain ⟨b, hb, rfl⟩ := List.mem_map.1 hc
      exact hforeign b hb
  have hall : ∀ c ∈ '.' :: letters, c.toLower = c := List.forall_mem_cons.2 ⟨rfl, hlower⟩
  have hending : ∀ ending : List Char, ending.map Char.toUpper = '.' :: letters.map Char.toUpper ↔
      '.' :: letters = ending.map Char.toLower := fun ending ↦ map_toUpper_eq_iff hall
  unfold extension Text.upper
  rw [String.ofList_inj, String.toList_ofList, Text.flatMap_upperChars_eq_iff hupper,
    fromLastDot_fileName_eq_iff ((mem_map_toUpper (by decide)).not.2 hdot)
      ((mem_map_toUpper (by decide)).not.2 hslash),
    Text.lowerAscii, String.toList_ofList, List.suffix_map_iff]
  simp only [hending]

theorem isJpegPath_iff (path : String) : isJpegPath path = true ↔ EndsAsJpeg path := by
  have hjpg : extension path = ".JPG" ↔ ".jpg".toList <:+ (Text.lowerAscii path).toList :=
    extension_eq_iff path ['j', 'p', 'g'] (by decide) (by decide) (by simp)
      (by simp [Text.IsForeign, Text.borrowedLetters])
  have hjpeg : extension path = ".JPEG" ↔ ".jpeg".toList <:+ (Text.lowerAscii path).toList :=
    extension_eq_iff path ['j', 'p', 'e', 'g'] (by decide) (by decide) (by simp)
      (by simp [Text.IsForeign, Text.borrowedLetters])
  unfold isJpegPath jpegExtensions EndsAsJpeg
  simp only [List.contains_iff_mem, List.mem_cons, List.not_mem_nil, or_false, exists_eq_or_imp,
    exists_eq_left]
  exact or_congr hjpg hjpeg

-- The upper case of `ǰ` begins with a J, and a directory has no say.
example : isJpegPath "out/.JpG" = true ∧ isJpegPath "out.ǰpg" = false ∧
    isJpegPath "dir.jpg/noext" = false := by
  decide +kernel

end Extension

namespace Session

open BatchScaler.Action

variable {σ ι κ : Type} (s : Session σ ι κ)

/-- Everything that can come of saving what is in the buffer, from the state `w` of the service on.
The events are all that the service is asked and all that the user is told. -/
inductive Saves (path : String) (w : σ) : Option ι → Outcome (Event ι) σ Bool → Prop
  | empty : Saves path w none ⟨[.notice .nothingToSave], .ok false, w⟩
  | plain {image : ι} {o : Outcome LogRecord σ Unit} (hpath : ¬ EndsAsJpeg path)
      (ho : (s.service.save image path).run w = o) :
      Saves path w (some image) ⟨[.save path image], o.result.map fun _ ↦ true, o.state⟩
  /-- The service fails to say whether it has an encoder. -/
  | probeFault {image : ι} {o : Outcome LogRecord σ Bool} {fault : Fault} (hpath : EndsAsJpeg path)
      (ho : (s.service.hasEncoder "image/jpeg").run w = o) (hresult : o.result = .error fault) :
      Saves path w (some image) ⟨[.hasEncoder "image/jpeg"], .error fault, o.state⟩
  | missingEncoder {image : ι} {w' : σ} (hpath : EndsAsJpeg path)
      (hprobe : (s.service.hasEncoder "image/jpeg").Yields w false w') :
      Saves path w (some image)
        ⟨[.hasEncoder "image/jpeg", .notice (.missingEncoder "image/jpeg")], .ok false, w'⟩
  | withQuality {image : ι} {w' : σ} {o : Outcome LogRecord σ Unit} (hpath : EndsAsJpeg path)
      (hprobe : (s.service.hasEncoder "image/jpeg").Yields w true w')
      (ho : (s.service.saveWithQuality image path "image/jpeg" 100).run w' = o) :
      Saves path w (some image)
        ⟨[.hasEncoder "image/jpeg", .saveWithQuality path image "image/jpeg" 100],
          o.result.map fun _ ↦ true, o.state⟩

theorem saves_image (path : String) (w : σ) (image : ι) :
    s.Saves path w (some image) ((s.save path (some image)).visible.run w) := by
  simp only [save, visible_bind]
  rw [run_bind]
  unfold saveImage
  cases hpath : isJpegPath path with
  | false =>
    have hplain : ¬ EndsAsJpeg path := by
      rw [← isJpegPath_iff, hpath]
      exact Bool.false_ne_true
    simp only [Bool.false_eq_true, if_false, visible_bind, visible_pure]
    rw [run_bind_pure, run_ask rfl]
    rcases ho : (s.service.save image path).run w with ⟨logs, fault | done, w'⟩
    · exact .plain hplain ho
    · exact .plain hplain ho
  | true =>
    have hjpeg := (isJpegPath_iff path).1 hpath
    simp only [if_true, visible_bind]
    rw [run_bind, run_ask rfl]
    rcases ho : (s.service.hasEncoder jpegMime).run w with ⟨logs, fault | answer, w'⟩
    · exact .probeFault hjpeg ho rfl
    have hprobe : (s.service.hasEncoder jpegMime).Yields w answer w' := ⟨by rw [ho], by rw [ho]⟩
    cases answer with
    | false => exact .missingEncoder hjpeg hprobe
    | true =>
      simp only [Outcome.andThen_ok, if_true, visible_bind, visible_log, pure_bind, visible_pure]
      rw [run_bind_pure, run_ask rfl]
      rcases hq : (s.service.saveWithQuality image path jpegMime jpegQuality).run w' with
        ⟨logs', fault | done, w''⟩
      · exact .withQuality hjpeg hprobe hq
      · exact .withQuality hjpeg hprobe hq

variable {s}

theorem Saves.asks_iff {path : String} {w : σ} {image : ι} {o : Outcome (Event ι) σ Bool}
    (h : s.Saves path w (some image) o) :
    .hasEncoder "image/jpeg" ∈ o.events ↔ EndsAsJpeg path := by
  cases h with
  | plain hpath => simp [hpath]
  | probeFault hpath => simp [hpath]
  | missingEncoder hpath => simp [hpath]
  | withQuality hpath => simp [hpath]

/-- Saving an image asks for the JPEG encoder if and only if the path ends as that of a JPEG file.
What else is asked depends on the answer alone, and the user is told of nothing but a save that
could not be tried. -/
theorem encoder_by_ending (s : Session σ ι κ) (path : String) (w : σ) :
    (∀ image, .hasEncoder "image/jpeg" ∈ ((s.save path (some image)).visible.run w).events ↔
      EndsAsJpeg path) ∧
    ∀ buffer, s.Saves path w buffer ((s.save path buffer).visible.run w) := by
  refine ⟨fun image ↦ (s.saves_image path w image).asks_iff, fun buffer ↦ ?_⟩
  cases buffer with
  | none => exact .empty
  | some image => exact s.saves_image path w image

end Session

end BatchScaler

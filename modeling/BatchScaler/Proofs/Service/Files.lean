import BatchScaler.Proofs.Picture.Layout
import BatchScaler.Proofs.Report.Outcome
import BatchScaler.Proofs.Storage.Writing
import BatchScaler.Service.Files

namespace BatchScaler

open BatchScaler.Action

namespace FileService

variable {engine : Engine} {profile : EngineProfile} {path : String} {p p' : Picture} {w w' : Disk}

theorem load_yields_iff :
    (load profile path).Yields w p w' ↔
      w.isTooLong (tidyPath path) = false ∧ w.hasFile (tidyPath path) = true ∧
        (∃ format content, w.find? path = some (.picture format content) ∧
          content.read format = p) ∧ w = w' := by
  simp only [load, yields_bind, yields_read]
  constructor
  · rintro ⟨_, _, ⟨rfl, rfl⟩, h⟩
    split at h
    · exact absurd h yields_fail
    · next hlong =>
      obtain ⟨_, _, hread, h⟩ := yields_bind.1 h
      obtain ⟨rfl, rfl⟩ := yields_read.1 hread
      split at h
      · exact absurd h yields_fail
      · next hfile =>
        obtain ⟨_, _, hread, h⟩ := yields_bind.1 h
        obtain ⟨rfl, rfl⟩ := yields_read.1 hread
        split at h
        · next format content hfind =>
          obtain ⟨_, _, hreport, h⟩ := yields_bind.1 h
          obtain rfl := yields_report.1 hreport
          obtain ⟨rfl, rfl⟩ := yields_pure.1 h
          exact ⟨by simpa using hlong, by simpa using hfile, ⟨format, content, hfind, rfl⟩, rfl⟩
        · exact absurd h yields_fail
  · rintro ⟨hlong, hfile, ⟨format, content, hfind, rfl⟩, rfl⟩
    refine ⟨_, _, ⟨rfl, rfl⟩, ?_⟩
    rw [hlong, if_neg Bool.false_ne_true]
    refine yields_bind.2 ⟨_, _, yields_read.2 ⟨rfl, rfl⟩, ?_⟩
    rw [hfile, Bool.not_true, if_neg Bool.false_ne_true]
    refine yields_bind.2 ⟨_, _, yields_read.2 ⟨rfl, rfl⟩, ?_⟩
    rw [hfind]
    exact yields_bind.2 ⟨(), w, yields_report.2 rfl, yields_pure.2 ⟨rfl, rfl⟩⟩

theorem write_yields_iff {format? : Option FileFormat} :
    (write profile p path format?).Yields w () w' ↔
      ∃ format place, format? = some format ∧ w.locate (visiblePath path) = .ok place ∧
        format.fits p = true ∧ w.isDirectory place = false ∧
        w.put place (.picture format (.bytes (format.keep p))) = w' := by
  constructor
  · intro h
    obtain ⟨_, _, hread, h⟩ := yields_bind.1 h
    obtain ⟨rfl, rfl⟩ := yields_read.1 hread
    split at h
    · next format place hlocate _ =>
      obtain ⟨_, _, hread, h⟩ := yields_bind.1 h
      obtain ⟨rfl, rfl⟩ := yields_read.1 hread
      split at h
      · exact absurd h yields_fail
      · next hfits =>
        simp only [Bool.or_eq_true, Bool.not_eq_true', not_or, Bool.not_eq_false,
          Bool.not_eq_true] at hfits
        exact ⟨format, place, rfl, hlocate, hfits.1, hfits.2, yields_update.1 h⟩
    · exact absurd h yields_fail
  · rintro ⟨format, place, rfl, hlocate, hfits, hdirectory, rfl⟩
    refine yields_bind.2 ⟨_, _, yields_read.2 ⟨rfl, rfl⟩, ?_⟩
    rw [hlocate]
    refine yields_bind.2 ⟨_, _, yields_read.2 ⟨rfl, rfl⟩, ?_⟩
    rw [hfits, hdirectory, Bool.not_true, Bool.or_self, if_neg Bool.false_ne_true]
    exact yields_update.2 rfl

theorem save_yields_iff :
    (save profile p path).Yields w () w' ↔
      (write profile p path (FileFormat.ofPath? (visiblePath path))).Yields w () w' := by
  constructor
  · intro h
    obtain ⟨_, _, hwrite, h⟩ := yields_bind.1 h
    obtain rfl := yields_report.1 h
    exact hwrite
  · intro h
    exact yields_bind.2 ⟨(), w', h, yields_report.2 rfl⟩

theorem keepsState_checkInteger (n : ℤ) :
    (checkInteger n : Action LogRecord Disk Unit).KeepsState := by
  unfold checkInteger
  split
  · exact .ofExcept _
  · exact .pure ()

theorem write_of_saveWithQuality {mime : String} {quality : ℕ}
    (h : (saveWithQuality profile p path mime quality).Yields w () w') :
    (write profile p path (FileFormat.ofMime? mime)).Yields w () w' := by
  unfold saveWithQuality at h
  cases hformat : FileFormat.ofMime? mime with
  | none =>
    rw [hformat] at h
    exact absurd h yields_fail
  | some format =>
    rw [hformat] at h
    obtain ⟨_, _, hcheck, h⟩ := yields_bind.1 h
    obtain ⟨_, _, hwrite, h⟩ := yields_bind.1 h
    obtain rfl := yields_report.1 h
    obtain rfl := (keepsState_checkInteger quality).eq_of_yields hcheck
    exact hwrite

theorem load_of_save (h : (save profile p path).Yields w () w') :
    ∃ format, FileFormat.ofPath? (visiblePath path) = some format ∧
      (load profile (visiblePath path)).Yields w'
        ((StoredPicture.bytes (format.keep p)).read format) w' := by
  obtain ⟨format, place, hformat, hlocate, -, hplace, rfl⟩ := write_yields_iff.1 (save_yields_iff.1 h)
  have htidy := Disk.locate_tidyPath hlocate hplace
  have hfound := Disk.find?_put (e := .picture format (.bytes (format.keep p))) htidy hplace nofun
  refine ⟨format, hformat, load_yields_iff.2 ⟨Disk.isTooLong_put htidy hplace, ?_,
    ⟨format, _, Disk.find?_put hlocate hplace nofun, rfl⟩, rfl⟩⟩
  unfold Disk.hasFile
  rw [hfound]
  rfl

end FileService

end BatchScaler

import BatchScaler.Proofs.Picture.Applied
import BatchScaler.Storage.Disk

namespace BatchScaler

namespace Picture

variable {p : Picture}

structure InLayout (p : Picture) : Prop where
  sides : p.size.Positive
  colour : 3 ≤ p.bands

theorem size_inColour (p : Picture) : p.inColour.size = p.size := by
  unfold inColour
  split <;> rfl

theorem bands_inColour (p : Picture) :
    p.inColour.bands = if p.bands = 1 then 3 else if p.bands = 2 then 4 else p.bands := by
  rcases p with ⟨_ | _ | _ | bands, raster, origin⟩ <;> rfl

theorem inColour_of_three_le (h : 3 ≤ p.bands) : p.inColour = p := by
  rcases p with ⟨_ | _ | _ | bands, raster, origin⟩
  · exact absurd h (Nat.not_succ_le_zero 2)
  · exact absurd h (by simp)
  · exact absurd h (by simp)
  · rfl

theorem length_samples (p : Picture) :
    p.samples.length = p.raster.width * p.raster.height * p.bands := by
  have hlength : ∀ pixel : Pixel p.bands, pixel.toList.length = p.bands := fun pixel ↦ by simp
  rw [samples, List.length_flatMap, List.map_congr_left fun pixel _ ↦ hlength pixel]
  simp [p.raster.size_pixels, Nat.mul_comm p.raster.width]

theorem getElem?_flatMap_toList {α : Type} {n : ℕ} (pixels : List (Vector α n)) {k i : ℕ}
    (hk : k < pixels.length) (hi : i < n) :
    (pixels.flatMap Vector.toList)[k * n + i]? = some pixels[k][i] := by
  induction pixels generalizing k with
  | nil => exact absurd hk (Nat.not_lt_zero k)
  | cons pixel pixels ih =>
    rw [List.flatMap_cons]
    cases k with
    | zero =>
      rw [Nat.zero_mul, Nat.zero_add, List.getElem?_append_left (by simpa using hi)]
      simp [hi]
    | succ k =>
      have hindex : (k + 1) * n + i = n + (k * n + i) := by ring
      rw [hindex, List.getElem?_append_right (by simp)]
      simpa using ih (Nat.lt_of_succ_lt_succ hk)

theorem ofSamples_samples (p : Picture) :
    ofSamples p.raster.width p.raster.height p.bands (fun k ↦ p.samples.getD k 0) =
      { p with origin := none } := by
  have hpixels : (fun x y ↦ .ofFn fun band ↦
      p.samples.getD ((y.val * p.raster.width + x.val) * p.bands + band.val) 0 :
        Fin p.raster.width → Fin p.raster.height → Pixel p.bands) = p.raster.get := by
    funext x y
    ext i hi
    have hindex : y.val * p.raster.width + x.val < p.raster.pixels.toList.length := by
      rw [Array.length_toList, p.raster.size_pixels]
      exact Raster.index_lt x.isLt y.isLt
    rw [Vector.getElem_ofFn, List.getD_eq_getElem?_getD, samples,
      getElem?_flatMap_toList _ hindex hi]
    rfl
  unfold ofSamples
  rw [hpixels, Raster.ofFn_get]

theorem toByte_of_byte (s : UInt8) : SampleFormat.uchar.toByte (s.toNat : ℚ) = s := by
  have hle : s.toNat ≤ 255 := Nat.le_of_lt_succ s.toNat_lt
  have hmin : min (s.toNat : ℤ) 255 = s.toNat := by omega
  have hfloor : (s.toNat : ℚ).floor = s.toNat := Int.floor_natCast (R := ℚ) s.toNat
  simp only [SampleFormat.toByte, hfloor, clipToByte, hmin, Int.toNat_natCast]
  exact UInt8.ofNat_toNat

theorem cast_samples (p : Picture) :
    cast .uchar p.raster.width p.raster.height p.bands
      (p.samples.map fun s ↦ (s.toNat : ℚ)).toArray = { p with origin := none } := by
  rw [← ofSamples_samples, cast]
  congr 1
  funext k
  have hsample : (p.samples.map fun s ↦ (s.toNat : ℚ)).toArray.getD k 0 =
      ((p.samples.getD k 0).toNat : ℚ) := by
    rcases lt_or_ge k p.samples.length with h | h
    · simp [Array.getD, h]
    · simp [Array.getD, h]
  rw [hsample, toByte_of_byte]

theorem size_firstBands (count : ℕ) (p : Picture) : (p.firstBands count).size = p.size := by
  unfold firstBands
  split <;> rfl

theorem bands_firstBands (count : ℕ) (p : Picture) :
    (p.firstBands count).bands = min count p.bands := by
  unfold firstBands
  split
  · next h => exact (min_eq_left h.le).symm
  · next h => exact (min_eq_right (not_lt.1 h)).symm

end Picture

namespace FileFormat

variable {format : FileFormat} {p : Picture} {count : ℕ}

theorem three_le_of_keptBands? (h : format.keptBands? p = some count) : 3 ≤ count := by
  unfold keptBands? at h
  split at h
  · cases h
    exact le_rfl
  · cases format <;> simp_all [maxBands?] <;> omega

theorem size_keep (format : FileFormat) (p : Picture) : (format.keep p).size = p.size := by
  unfold keep
  split
  · rfl
  · exact p.size_firstBands _

theorem bands_keep_le (format : FileFormat) (p : Picture) : (format.keep p).bands ≤ p.bands := by
  unfold keep
  split
  · exact le_rfl
  · rw [Picture.bands_firstBands]
    exact min_le_right _ _

theorem three_le_bands_keep (h : 3 ≤ p.bands) : 3 ≤ (format.keep p).bands := by
  unfold keep
  split
  · exact h
  · next count hcount =>
    rw [Picture.bands_firstBands]
    exact le_min (three_le_of_keptBands? hcount) h

def lossless : List FileFormat :=
  [png, tiff, native]

theorem keep_of_lossless (hformat : format ∈ lossless) (h : p.bands ≤ 4) : format.keep p = p := by
  have hkept : ∀ count, format.keptBands? p = some count → 4 ≤ count := by
    intro count hcount
    simp only [lossless, List.mem_cons, List.not_mem_nil, or_false] at hformat
    rcases hformat with rfl | rfl | rfl <;> simp_all [keptBands?, dropsOpacity, maxBands?]
  unfold keep
  split
  · rfl
  · next count hcount => exact dif_neg (not_lt.2 (h.trans (hkept count hcount)))

end FileFormat

namespace StoredPicture

variable {content : StoredPicture} {format : FileFormat} {p : Picture}

def size : StoredPicture → Size
  | bytes p => p.size
  | words width height _ _ => ⟨width, height⟩
  | other _ width height _ _ => ⟨width, height⟩

def bands : StoredPicture → ℕ
  | bytes p => p.bands
  | words _ _ bands _ => bands
  | other _ _ _ bands _ => bands

structure Decoded (content : StoredPicture) : Prop where
  sides : content.size.Positive
  bands_pos : 0 < content.bands

/-- Whatever the samples are, they are made bytes first and put in colour then. -/
theorem exists_inColour (content : StoredPicture) :
    ∃ p : Picture, content.normalise = p.inColour ∧ p.size = content.size ∧
      p.bands = content.bands := by
  cases content with
  | bytes p => exact ⟨p, rfl, rfl, rfl⟩
  | words width height bands samples => exact ⟨_, rfl, rfl, rfl⟩
  | other format width height bands samples => exact ⟨_, rfl, rfl, rfl⟩

theorem size_normalise (content : StoredPicture) : content.normalise.size = content.size := by
  obtain ⟨p, hp, hsize, -⟩ := content.exists_inColour
  rw [hp, p.size_inColour, hsize]

theorem bands_normalise (content : StoredPicture) :
    content.normalise.bands =
      if content.bands = 1 then 3 else if content.bands = 2 then 4 else content.bands := by
  obtain ⟨p, hp, -, hbands⟩ := content.exists_inColour
  rw [hp, p.bands_inColour, hbands]

theorem inLayout_read (h : content.Decoded) : (content.read format).InLayout := by
  have hsize : (content.read format).size = content.size :=
    (format.size_keep _).trans content.size_normalise
  refine ⟨hsize ▸ h.sides, FileFormat.three_le_bands_keep ?_⟩
  have hpos := h.bands_pos
  rw [bands_normalise]
  split
  · exact le_rfl
  · split <;> omega

theorem bands_read_le (h : content.bands ≤ 4) : (content.read format).bands ≤ 4 := by
  refine (format.bands_keep_le _).trans ?_
  rw [bands_normalise]
  split
  · omega
  · split <;> omega

theorem decoded_of_inLayout (h : p.InLayout) : (bytes (format.keep p)).Decoded := by
  have hsize : (bytes (format.keep p)).size = p.size := format.size_keep p
  refine ⟨hsize ▸ h.sides, ?_⟩
  exact Nat.lt_of_lt_of_le (by decide) (FileFormat.three_le_bands_keep h.colour)

theorem normalise_of_inLayout (h : p.InLayout) : (bytes p).normalise = p :=
  Picture.inColour_of_three_le h.colour

theorem read_keep (hformat : format ∈ FileFormat.lossless) (h : p.InLayout) (hbands : p.bands ≤ 4) :
    ∃ origin, (bytes (format.keep p)).read format = { p with origin := origin } := by
  rw [FileFormat.keep_of_lossless hformat hbands]
  unfold read
  rw [normalise_of_inLayout h, FileFormat.keep_of_lossless hformat hbands]
  exact ⟨_, rfl⟩

end StoredPicture

end BatchScaler

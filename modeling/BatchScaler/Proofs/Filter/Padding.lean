import BatchScaler.Proofs.Filter.Surroundings

namespace BatchScaler

/-- The position on an axis of `n` pixels that a mode reads for a position of an endless axis. A
mirror lays the axis out forwards and backwards in turn, tiles all lie forwards. -/
inductive EdgeMode.Reads (n : ℕ) : EdgeMode → ℤ → ℕ → Prop
  | first {i : ℤ} : i < 0 → Reads n .constantExtension i 0
  | within {i : ℕ} : i < n → Reads n .constantExtension i i
  | last {i : ℤ} : n ≤ i → Reads n .constantExtension i (n - 1)
  | forwards {i : ℕ} (turn : ℤ) : i < n → Reads n .mirror (2 * n * turn + i) i
  | backwards {i : ℕ} (turn : ℤ) : i < n → Reads n .mirror (2 * n * turn - 1 - i) i
  | tile {i : ℕ} (turn : ℤ) : i < n → Reads n .wrap (n * turn + i) i

namespace EdgeMode

variable {mode : EdgeMode} {n k : ℕ} {i : ℤ}

theorem emod_of_turn {m r : ℤ} (turn : ℤ) (hlow : 0 ≤ r) (hhigh : r < m) :
    (m * turn + r) % m = r := by
  rw [add_comm, Int.add_mul_emod_self_left, Int.emod_eq_of_lt hlow hhigh]

theorem index_of_reads (hn : 0 < n) (h : mode.Reads n i k) : mode.index n i = k := by
  cases h with
  | first h => simp only [index, extend, Extend.index]; omega
  | within h => exact index_of_lt .constantExtension h
  | last h => simp only [index, extend, Extend.index]; omega
  | forwards turn h =>
    simp only [index, extend, Extend.index]
    rw [emod_of_turn turn (by omega) (by omega), Int.toNat_natCast, if_pos h]
  | backwards turn h =>
    have hturn : 2 * (n : ℤ) * turn - 1 - k = 2 * n * (turn - 1) + (2 * n - 1 - k) := by ring
    simp only [index, extend, Extend.index]
    rw [hturn, emod_of_turn (turn - 1) (by omega) (by omega), if_neg (by omega)]
    omega
  | tile turn h =>
    simp only [index, extend, Extend.index]
    rw [emod_of_turn turn (by omega) (by omega), Int.toNat_natCast]

theorem reads_index (mode : EdgeMode) (hn : 0 < n) (i : ℤ) : mode.Reads n i (mode.index n i) := by
  cases mode with
  | constantExtension =>
    rcases lt_or_ge i 0 with hlow | hlow
    · rw [index_of_reads hn (.first hlow)]
      exact .first hlow
    · rcases lt_or_ge i n with hhigh | hhigh
      · obtain ⟨i, rfl⟩ := Int.eq_ofNat_of_zero_le hlow
        rw [index_of_reads hn (.within (Int.ofNat_lt.1 hhigh))]
        exact .within (Int.ofNat_lt.1 hhigh)
      · rw [index_of_reads hn (.last hhigh)]
        exact .last hhigh
  | mirror =>
    obtain ⟨r, hr⟩ := Int.eq_ofNat_of_zero_le (Int.emod_nonneg i (show (2 * n : ℤ) ≠ 0 by omega))
    have hlt := Int.emod_lt_of_pos i (show (0 : ℤ) < 2 * n by omega)
    have hi := Int.mul_ediv_add_emod i (2 * n)
    rw [hr] at hi hlt
    rw [← hi]
    rcases lt_or_ge r n with hforwards | hbackwards
    · rw [index_of_reads hn (.forwards _ hforwards)]
      exact .forwards _ hforwards
    · have hrest : 2 * n - 1 - r < n := by omega
      have hturn : 2 * (n : ℤ) * (i / (2 * n)) + r =
          2 * n * (i / (2 * n) + 1) - 1 - (2 * n - 1 - r : ℕ) := by
        rw [mul_add]
        omega
      rw [hturn, index_of_reads hn (.backwards _ hrest)]
      exact .backwards _ hrest
  | wrap =>
    obtain ⟨r, hr⟩ := Int.eq_ofNat_of_zero_le (Int.emod_nonneg i (show (n : ℤ) ≠ 0 by omega))
    have hlt := Int.emod_lt_of_pos i (show (0 : ℤ) < n by omega)
    have hi := Int.mul_ediv_add_emod i n
    rw [hr] at hi hlt
    rw [← hi, index_of_reads hn (.tile _ (Int.ofNat_lt.1 hlt))]
    exact .tile _ (Int.ofNat_lt.1 hlt)

end EdgeMode

namespace Raster

variable {α : Type} {r : Raster α} {margin : ℤ}

theorem shows_pad (hr : r.size.Positive) (hm : 0 ≤ margin) (xMode yMode : EdgeMode) :
    ∃ padded, r.pad margin xMode yMode = .ok padded ∧
      padded.width = r.width + 2 * margin.toNat ∧ padded.height = r.height + 2 * margin.toNat ∧
      r.Shows padded (fun x ↦ xMode.index r.width (x - margin))
        fun y ↦ yMode.index r.height (y - margin) := by
  have hw := width_pos hr
  have hh := height_pos hr
  rcases hm.eq_or_lt with rfl | hpos
  · refine ⟨r, rfl, rfl, rfl, (Shows.refl r).congr (fun x hx ↦ ?_) fun y hy ↦ ?_⟩
    · exact (Step.index_sub_zero xMode hx).symm
    · exact (Step.index_sub_zero yMode hy).symm
  · obtain ⟨margin, rfl⟩ := Int.eq_ofNat_of_zero_le hm
    refine ⟨_, pad_of_pos hw hh xMode yMode hpos, rfl, rfl, ?_, ?_, ?_⟩
    · exact fun x _ ↦ xMode.index_lt hw _
    · exact fun y _ ↦ yMode.index_lt hh _
    · exact get_pad hw hh xMode yMode

/-- Both paddings succeed and give the same, whatever the modes and however wide the margin. -/
theorem paddings_agree (hr : r.size.Positive) (hm : 0 ≤ margin) (xMode yMode : EdgeMode) :
    ∃ padded, r.padImage margin margin xMode yMode = .ok padded ∧
      r.pad margin xMode yMode = .ok padded ∧
      padded.size = ⟨r.size.width + 2 * margin, r.size.height + 2 * margin⟩ ∧
      ∀ (x : Fin padded.width) (y : Fin padded.height), ∃ (i : Fin r.width) (j : Fin r.height),
        xMode.Reads r.width (x - margin) i ∧ yMode.Reads r.height (y - margin) j ∧
          padded.get x y = r.get i j := by
  obtain ⟨image, himage, hsize, hshows⟩ :=
    Step.moves_padSteps .nearestPixel hr hm hm xMode yMode
  obtain ⟨padded, hpad, hwidth, hheight, hshows'⟩ := shows_pad hr hm xMode yMode
  have hsame : image = padded := by
    refine hshows.unique hshows' ?_ ?_
    · have himageWidth : (image.width : ℤ) = r.width + 2 * margin := congrArg Size.width hsize
      omega
    · have himageHeight : (image.height : ℤ) = r.height + 2 * margin := congrArg Size.height hsize
      omega
  subst hsame
  refine ⟨image, himage, hpad, hsize, fun x y ↦ ?_⟩
  exact ⟨⟨_, hshows.column_lt x x.isLt⟩, ⟨_, hshows.row_lt y y.isLt⟩,
    xMode.reads_index (width_pos hr) _, yMode.reads_index (height_pos hr) _, hshows.get_eq x y⟩

theorem paddings_agree_wide :
    let r : Raster ℕ := .ofFn 3 2 fun x y ↦ 10 * y + x
    ∃ padded, r.padImage 7 7 .mirror .wrap = .ok padded ∧ r.pad 7 .mirror .wrap = .ok padded ∧
      padded.size = ⟨17, 16⟩ ∧
      ∀ (x : Fin padded.width) (y : Fin padded.height), ∃ (i : Fin r.width) (j : Fin r.height),
        EdgeMode.mirror.Reads r.width (x - 7) i ∧ EdgeMode.wrap.Reads r.height (y - 7) j ∧
          padded.get x y = r.get i j :=
  paddings_agree ⟨by decide, by decide⟩ (by decide) .mirror .wrap

end Raster

end BatchScaler

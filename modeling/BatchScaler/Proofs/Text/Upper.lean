import Mathlib.Data.List.Basic
import BatchScaler.Text.Upper

namespace BatchScaler.Text

theorem ascii_lt_longUppers : ∀ entry ∈ longUppers, 128 ≤ entry.1 := by
  decide +kernel

theorem ascii_lt_upperRuns : ∀ run ∈ upperRuns.tail, 128 ≤ run.1 := by
  decide +kernel

theorem upperPoints_of_ascii {n : Nat} (h : n < 128) :
    upperPoints n = [if 0x61 ≤ n ∧ n ≤ 0x7A then n - 32 else n] := by
  have hlong : longUppers.lookup n = none := by
    refine List.lookup_eq_none_iff.2 fun entry hentry ↦ bne_iff_ne.2 ?_
    rintro rfl
    exact absurd (ascii_lt_longUppers entry hentry) (Nat.not_le.2 h)
  have hruns : upperRuns = (0x61, 0x7A, 1, -32) :: upperRuns.tail := rfl
  unfold upperPoints
  rw [hlong, hruns]
  by_cases hletter : 0x61 ≤ n ∧ n ≤ 0x7A
  · rw [List.find?_cons_of_pos (by simp [hletter, Nat.mod_one]), if_pos hletter]
    simp only [List.cons.injEq, and_true]
    omega
  · rw [List.find?_cons_of_neg (by simpa using fun h₁ h₂ ↦ absurd ⟨h₁, h₂⟩ hletter),
      List.find?_eq_none.2, if_neg hletter]
    intro run hrun
    have hfirst := ascii_lt_upperRuns run hrun
    simp only [Bool.and_eq_true, decide_eq_true_eq]
    omega

@[elab_as_elim]
theorem forall_ascii {P : Char → Prop} (c : Char) (hc : c.toNat < 128)
    (h : ∀ n ∈ List.range 128, P (Char.ofNat n)) : P c := by
  rw [← Char.ofNat_toNat c]
  exact h c.toNat (List.mem_range.2 hc)

theorem casing_of_beyond {c : Char} (h : 128 ≤ c.toNat) : c.toUpper = c ∧ c.toLower = c := by
  have hbeyond {d : Char} (hd : d.toNat < 128) : ¬ c.val ≤ d.val := fun hle ↦
    absurd (UInt32.le_iff_toNat_le.1 hle) (Nat.not_le.2 (Nat.lt_of_lt_of_le hd h))
  constructor
  · exact dif_neg fun hletter ↦ hbeyond (by decide) hletter.2
  · exact dif_neg fun hletter ↦ hbeyond (by decide) hletter.2

-- The library's own lemmas about the two cases come with the whole of it only.
theorem toUpper_toLower (c : Char) : c.toLower.toUpper = c.toUpper := by
  rcases Nat.lt_or_ge c.toNat 128 with h | h
  · exact forall_ascii c h (by decide +kernel)
  · rw [(casing_of_beyond h).2]

theorem toLower_toUpper (c : Char) : c.toUpper.toLower = c.toLower := by
  rcases Nat.lt_or_ge c.toNat 128 with h | h
  · exact forall_ascii c h (by decide +kernel)
  · rw [(casing_of_beyond h).1]

theorem toUpper_eq_or_isAlpha (c : Char) :
    c.toUpper = c ∨ c.isAlpha ∧ c.toUpper.isAlpha := by
  rcases Nat.lt_or_ge c.toNat 128 with h | h
  · exact forall_ascii c h (by decide +kernel)
  · exact .inl (casing_of_beyond h).1

theorem upperChars_of_ascii {c : Char} (h : c.toNat < 128) : upperChars c = [c.toUpper] := by
  have hc : Char.ofNat (if 0x61 ≤ c.toNat ∧ c.toNat ≤ 0x7A then c.toNat - 32 else c.toNat) =
      c.toUpper := forall_ascii c h (by decide +kernel)
  rw [upperChars, upperPoints_of_ascii h, List.map_singleton, hc]

/-- The letters that a character beyond ASCII may have for its whole upper case: `ı` and `ſ` have
one of them, `ß` and the ligatures several. -/
def borrowedLetters : List Char :=
  ['F', 'I', 'L', 'S', 'T']

def IsForeign (c : Char) : Prop :=
  128 ≤ c.toNat ∨ c ∈ borrowedLetters

instance : DecidablePred IsForeign :=
  fun c ↦ inferInstanceAs (Decidable (128 ≤ c.toNat ∨ c ∈ borrowedLetters))

theorem isForeign_longUppers : ∀ entry ∈ longUppers, ∃ p ∈ entry.2, IsForeign (Char.ofNat p) := by
  decide +kernel

/-- A run within ASCII stays there. Of the others, each leads to characters beyond ASCII, or it is a
single character with a borrowed letter for its upper case. -/
theorem isForeign_upperRuns : ∀ run ∈ upperRuns, run.2.1 < 128 ∨
    (128 ≤ run.1 + run.2.2.2 ∧
      (run.2.1 + run.2.2.2 < 0xD800 ∨
        0xDFFF < run.1 + run.2.2.2 ∧ run.2.1 + run.2.2.2 < 0x110000)) ∨
    run.1 = run.2.1 ∧ Char.ofNat (run.1 + run.2.2.2).toNat ∈ borrowedLetters := by
  decide +kernel

theorem exists_isForeign {c : Char} (h : 128 ≤ c.toNat) : ∃ d ∈ upperChars c, IsForeign d := by
  suffices hpoint : ∃ p ∈ upperPoints c.toNat, IsForeign (Char.ofNat p) by
    obtain ⟨p, hp, hforeign⟩ := hpoint
    exact ⟨Char.ofNat p, List.mem_map_of_mem hp, hforeign⟩
  unfold upperPoints
  split
  · next points hlong =>
    obtain ⟨before, after, hentry, -⟩ := List.lookup_eq_some_iff.1 hlong
    exact isForeign_longUppers (c.toNat, points)
      (hentry ▸ List.mem_append_right _ List.mem_cons_self)
  split
  · next first last step shift hrun =>
    have hmem := List.mem_of_find?_eq_some hrun
    have hin := List.find?_some hrun
    simp only [Bool.and_eq_true, decide_eq_true_eq] at hin
    refine ⟨_, List.mem_singleton_self _, ?_⟩
    rcases isForeign_upperRuns _ hmem with hascii | ⟨hbeyond, hvalid⟩ | ⟨hsingle, hborrowed⟩
    · exact absurd (Nat.lt_of_le_of_lt hin.1.2 hascii) (Nat.not_lt.2 h)
    · refine .inl ?_
      dsimp only at hbeyond hvalid
      have hpoint : ((c.toNat : Int) + shift).toNat.isValidChar := by
        unfold Nat.isValidChar
        omega
      have htoNat : (Char.ofNat ((c.toNat : Int) + shift).toNat).toNat =
          ((c.toNat : Int) + shift).toNat := by
        rw [Char.ofNat, dif_pos hpoint]
        rfl
      omega
    · have hpoint : first = c.toNat := by dsimp only at hsingle; omega
      exact .inr (hpoint ▸ hborrowed)
  · exact ⟨_, List.mem_singleton_self _, .inl (by rwa [Char.ofNat_toNat])⟩

/-- A text whose upper case is ASCII without borrowed letters differs from it in case alone. -/
theorem flatMap_upperChars_eq_iff {cs ds : List Char} (hds : ∀ d ∈ ds, ¬ IsForeign d) :
    cs.flatMap upperChars = ds ↔ cs.map Char.toUpper = ds := by
  have hascii : (∀ c ∈ cs, c.toNat < 128) → cs.flatMap upperChars = cs.map Char.toUpper := by
    intro h
    rw [List.map_eq_flatMap]
    exact List.flatMap_congr fun c hc ↦ upperChars_of_ascii (h c hc)
  constructor
  · rintro rfl
    refine (hascii fun c hc ↦ ?_).symm
    by_contra hbeyond
    obtain ⟨d, hd, hforeign⟩ := exists_isForeign (Nat.not_lt.1 hbeyond)
    exact hds d (List.mem_flatMap.2 ⟨c, hc, hd⟩) hforeign
  · rintro rfl
    refine hascii fun c hc ↦ ?_
    by_contra hbeyond
    refine hds c.toUpper (List.mem_map_of_mem hc) (.inl ?_)
    rw [(casing_of_beyond (Nat.not_lt.1 hbeyond)).1]
    exact Nat.not_lt.1 hbeyond

theorem upperChars_toLower (c : Char) : upperChars c.toLower = upperChars c := by
  rcases Nat.lt_or_ge c.toNat 128 with h | h
  · have hlower : c.toLower.toNat < 128 := forall_ascii c h (by decide +kernel)
    rw [upperChars_of_ascii hlower, toUpper_toLower, upperChars_of_ascii h]
  · rw [(casing_of_beyond h).2]

/-- Texts that differ only in the case of ASCII letters have the same upper case. -/
theorem upper_eq_of_lowerAscii_eq {s t : String} (h : lowerAscii s = lowerAscii t) :
    upper s = upper t := by
  have hchars : ∀ cs : List Char,
      (cs.map Char.toLower).flatMap upperChars = cs.flatMap upperChars := by
    intro cs
    rw [List.flatMap_map]
    exact List.flatMap_congr fun c _ ↦ upperChars_toLower c
  unfold upper
  rw [← hchars s.toList, ← hchars t.toList, String.ofList_injective h]

end BatchScaler.Text

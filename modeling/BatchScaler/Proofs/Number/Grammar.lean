import Mathlib.Data.List.TakeWhile
import BatchScaler.Number.Numeral

namespace BatchScaler

namespace Text

theorem isSome_asciiDigit? {c : Char} : (asciiDigit? c).isSome ↔ 0x30 ≤ c.toNat ∧ c.toNat ≤ 0x39 := by
  have h : ('0' ≤ c ∧ c ≤ '9') ↔ 0x30 ≤ c.toNat ∧ c.toNat ≤ 0x39 := Iff.rfl
  unfold asciiDigit?
  split <;> simp_all

theorem isBlank_iff {c : Char} : isBlank c ↔
    ∃ r ∈ blankRanges, r.1 ≤ c.toNat ∧ c.toNat ≤ r.2 := by
  simp [isBlank, inRanges]

theorem not_isBlank_of_digit {c : Char} (h : (asciiDigit? c).isSome) : isBlank c = false := by
  rw [isSome_asciiDigit?] at h
  rw [Bool.eq_false_iff, ne_eq, isBlank_iff]
  simp only [blankRanges, List.mem_cons, List.not_mem_nil, or_false]
  rintro ⟨r, hr, h₁, h₂⟩
  rcases hr with rfl | rfl | rfl | rfl | rfl | rfl | rfl | rfl | rfl | rfl <;>
    simp only at h₁ h₂ <;> omega

theorem asciiDigit?_of_isDigit {c : Char} (h : c.isDigit) :
    asciiDigit? c = some (c.toNat - '0'.toNat) := by
  rw [Char.isDigit, Bool.and_eq_true, decide_eq_true_eq, decide_eq_true_eq] at h
  exact if_pos h

theorem span_append {p : Char → Bool} {xs ys : List Char} (hx : ∀ c ∈ xs, p c)
    (hy : ∀ c, ys.head? = some c → p c = false) :
    (xs ++ ys).takeWhile p = xs ∧ (xs ++ ys).dropWhile p = ys := by
  rw [List.takeWhile_append_of_pos hx, List.dropWhile_append_of_pos hx]
  cases ys with
  | nil => simp
  | cons y ys => simp [hy y rfl]

theorem trimChars_of_ends {cs : List Char} (hhead : ∀ c, cs.head? = some c → isBlank c = false)
    (hlast : ∀ c, cs.getLast? = some c → isBlank c = false) : trimChars cs = cs := by
  have hdrop : ∀ xs : List Char, (∀ c, xs.head? = some c → isBlank c = false) →
      xs.dropWhile isBlank = xs := by
    intro xs h
    cases xs with
    | nil => rfl
    | cons c xs => simp [h c rfl]
  have hreverse : ∀ c, cs.reverse.head? = some c → isBlank c = false :=
    fun c hc ↦ hlast c (List.head?_reverse.symm.trans hc)
  rw [trimChars, hdrop cs hhead, hdrop cs.reverse hreverse, List.reverse_reverse]

theorem length_trimChars_le (cs : List Char) : (trimChars cs).length ≤ cs.length := by
  rw [trimChars, List.length_reverse]
  calc (((cs.dropWhile isBlank).reverse).dropWhile isBlank).length
      ≤ (cs.dropWhile isBlank).reverse.length := (List.dropWhile_suffix _).length_le
    _ = (cs.dropWhile isBlank).length := List.length_reverse
    _ ≤ cs.length := (List.dropWhile_suffix _).length_le

theorem trimChars_of_trim {text : String} (h : trim text = text) :
    trimChars text.toList = text.toList := by
  rw [← String.toList_ofList (l := trimChars text.toList)]
  exact congrArg String.toList h

theorem trimChars_append {left right : List Char} (hleft : ∀ c ∈ left, isBlank c)
    (hright : ∀ c ∈ right, isBlank c) (cs : List Char) :
    trimChars (left ++ (cs ++ right)) = trimChars cs := by
  have hright' : ∀ c ∈ right.reverse, isBlank c := fun c hc ↦ hright c (List.mem_reverse.1 hc)
  unfold trimChars
  rw [List.dropWhile_append_of_pos hleft, List.dropWhile_append]
  split
  · next hblank =>
    rw [List.isEmpty_iff.1 hblank, List.dropWhile_eq_nil_iff.2 hright]
  · rw [List.reverse_append, List.dropWhile_append_of_pos hright']

theorem head_of_trimChars {cs : List Char} (h : trimChars cs = cs) {c : Char}
    (hc : cs.head? = some c) : isBlank c = false := by
  cases cs with
  | nil => cases hc
  | cons first rest =>
    obtain rfl := Option.some.inj hc
    rw [Bool.eq_false_iff]
    intro hblank
    have hrest : trimChars (first :: rest) = trimChars rest := by
      simp only [trimChars, List.dropWhile_cons, hblank, if_true]
    have hlength := length_trimChars_le rest
    rw [← hrest, h, List.length_cons] at hlength
    omega

end Text

def Signs (sign : List Char) (negative : Bool) : Prop :=
  sign = ['-'] ∧ negative = true ∨ (sign = [] ∨ sign = ['+']) ∧ negative = false

theorem signs_splitSign (cs : List Char) :
    ∃ sign, cs = sign ++ (splitSign cs).2 ∧ Signs sign (splitSign cs).1 := by
  unfold splitSign
  split
  · exact ⟨['-'], by simp [Signs]⟩
  · exact ⟨['+'], by simp [Signs]⟩
  · exact ⟨[], by simp [Signs]⟩

theorem splitSign_of_digit {c : Char} (h : (Text.asciiDigit? c).isSome) (cs : List Char) :
    splitSign (c :: cs) = (false, c :: cs) := by
  have hc := Text.isSome_asciiDigit?.1 h
  unfold splitSign
  split
  · next heq =>
    cases heq
    exact absurd hc.1 (by decide)
  · next heq =>
    cases heq
    exact absurd hc.1 (by decide)
  · rfl

theorem Signs.splitSign_append {sign : List Char} {negative : Bool} (h : Signs sign negative)
    {c : Char} (hc : (Text.asciiDigit? c).isSome) (cs : List Char) :
    splitSign (sign ++ c :: cs) = (negative, c :: cs) := by
  rcases h with ⟨rfl, rfl⟩ | ⟨rfl | rfl, rfl⟩
  · rfl
  · exact splitSign_of_digit hc cs
  · rfl

theorem Signs.not_isBlank {sign : List Char} {negative : Bool} (h : Signs sign negative) {c : Char}
    (hc : (Text.asciiDigit? c).isSome) {cs : List Char} {first : Char}
    (hfirst : (sign ++ c :: cs).head? = some first) : Text.isBlank first = false := by
  rcases h with ⟨rfl, -⟩ | ⟨rfl | rfl, -⟩
  · cases hfirst
    rfl
  · cases hfirst
    exact Text.not_isBlank_of_digit hc
  · cases hfirst
    rfl

namespace Numeral

def Spells (cs : List Char) (n : Numeral) : Prop :=
  ∃ sign digits, cs = n.leading ++ (sign ++ (digits ++ n.trailing)) ∧
    (∀ c ∈ n.leading, Text.isBlank c) ∧
    Signs sign n.negative ∧ digits ≠ [] ∧ digits.map Text.asciiDigit? = n.digits.map some ∧
    ∀ c ∈ n.trailing, Text.isBlank c

theorem isSome_of_map_eq {digits : List Char} {values : List Nat}
    (h : digits.map Text.asciiDigit? = values.map some) {c : Char} (hc : c ∈ digits) :
    (Text.asciiDigit? c).isSome := by
  have hmem : Text.asciiDigit? c ∈ values.map some := h ▸ List.mem_map_of_mem hc
  obtain ⟨d, -, hd⟩ := List.mem_map.1 hmem
  rw [← hd]
  rfl

theorem filterMap_of_map_eq {digits : List Char} {values : List Nat}
    (h : digits.map Text.asciiDigit? = values.map some) :
    digits.filterMap Text.asciiDigit? = values := by
  have hid : digits.filterMap Text.asciiDigit? = (digits.map Text.asciiDigit?).filterMap id := by
    rw [List.filterMap_map]
    rfl
  rw [hid, h, List.filterMap_map]
  simp

theorem map_eq_of_all {digits : List Char} (h : ∀ c ∈ digits, (Text.asciiDigit? c).isSome) :
    digits.map Text.asciiDigit? = (digits.filterMap Text.asciiDigit?).map some := by
  induction digits with
  | nil => rfl
  | cons c rest ih =>
    obtain ⟨d, hd⟩ := Option.isSome_iff_exists.1 (h c List.mem_cons_self)
    simp [hd, ih fun x hx ↦ h x (List.mem_cons_of_mem _ hx)]

theorem spells_of_scan? {cs : List Char} {n : Numeral} (h : scan? cs = some n) : Spells cs n := by
  obtain ⟨sign, hsplit, hsign⟩ := signs_splitSign (cs.dropWhile Text.isBlank)
  rcases hb : splitSign (cs.dropWhile Text.isBlank) with ⟨negative, body⟩
  rw [hb] at hsplit hsign
  simp only [scan?, hb] at h
  split at h
  · cases h
  next hcond =>
  simp only [Bool.or_eq_true, Bool.not_eq_true', not_or, Bool.not_eq_false, List.all_eq_true]
    at hcond
  obtain ⟨hne, htrail⟩ := hcond
  cases h
  have hdigits : ∀ c ∈ body.takeWhile fun c ↦ (Text.asciiDigit? c).isSome,
      (Text.asciiDigit? c).isSome := fun c hc ↦ by
    simpa using List.all_eq_true.1 List.all_takeWhile c hc
  refine ⟨sign, body.takeWhile fun c ↦ (Text.asciiDigit? c).isSome, ?_, ?_, hsign, ?_,
    map_eq_of_all hdigits, htrail⟩
  · rw [List.takeWhile_append_dropWhile, ← hsplit, List.takeWhile_append_dropWhile]
  · exact List.all_eq_true.1 List.all_takeWhile
  · intro hnil
    rw [hnil] at hne
    exact hne rfl

theorem not_isDigit_head {blanks : List Char} (h : ∀ c ∈ blanks, Text.isBlank c) {c : Char}
    (hc : blanks.head? = some c) : (Text.asciiDigit? c).isSome = false := by
  rw [Bool.eq_false_iff]
  intro hdigit
  have hblank := h c (List.mem_of_mem_head? hc)
  rw [Text.not_isBlank_of_digit hdigit] at hblank
  cases hblank

theorem scan?_of_spells {cs : List Char} {n : Numeral} (h : Spells cs n) : scan? cs = some n := by
  obtain ⟨sign, digits, rfl, hlead, hsign, hne, hmap, htrail⟩ := h
  obtain ⟨d, ds, rfl⟩ := List.exists_cons_of_ne_nil hne
  have hdigits : ∀ c ∈ d :: ds, (Text.asciiDigit? c).isSome := fun c hc ↦ isSome_of_map_eq hmap hc
  have hd := hdigits d List.mem_cons_self
  have hsplit : splitSign (sign ++ (d :: ds ++ n.trailing)) = (n.negative, d :: ds ++ n.trailing) :=
    hsign.splitSign_append hd _
  have hhead : ∀ c, (sign ++ (d :: ds ++ n.trailing)).head? = some c → Text.isBlank c = false :=
    fun c hc ↦ hsign.not_isBlank hd hc
  obtain ⟨htake, hdrop⟩ := Text.span_append hlead hhead
  obtain ⟨htake', hdrop'⟩ := Text.span_append (p := fun c ↦ (Text.asciiDigit? c).isSome) hdigits
    fun c hc ↦ not_isDigit_head htrail hc
  have hvalues := filterMap_of_map_eq hmap
  have hnonempty : n.digits.isEmpty = false := by
    cases hv : n.digits with
    | nil => simp [hv] at hmap
    | cons => rfl
  have hall : n.trailing.all Text.isBlank = true := List.all_eq_true.2 htrail
  simp only [scan?, htake, hdrop, hsplit, htake', hdrop', hvalues, hnonempty, hall]
  simp

/-- The scanner reads exactly the plain numerals, each as the parts it is spelled with. -/
theorem scan?_eq_some_iff {cs : List Char} {n : Numeral} : scan? cs = some n ↔ Spells cs n :=
  ⟨spells_of_scan?, scan?_of_spells⟩

/-- A plain numeral that cannot be read: it has too many digits, or a separator among its blanks. -/
def Unreadable (cs : List Char) : Prop :=
  ∃ n, Spells cs n ∧
    (maxNumeralDigits < n.digits.length ∨ ∃ c ∈ n.leading ++ n.trailing, Text.isSeparator c)

theorem parse_eq_error_iff {text : String} :
    (∃ fault, parse text = .error fault) ↔ Unreadable text.toList := by
  unfold Unreadable
  simp only [← scan?_eq_some_iff]
  unfold parse
  cases scan? text.toList with
  | none => simp
  | some n =>
    simp only [Option.some.injEq, exists_eq_left', List.mem_append]
    split
    · next h =>
      obtain ⟨c, hc, hsep⟩ := List.any_eq_true.1 h
      exact ⟨fun _ ↦ .inr ⟨c, .inl hc, hsep⟩, fun _ ↦ ⟨_, rfl⟩⟩
    next hlead =>
    split
    · next h => exact ⟨fun _ ↦ .inl h, fun _ ↦ ⟨_, rfl⟩⟩
    next hdigits =>
    split
    · next h =>
      obtain ⟨c, hc, hsep⟩ := List.any_eq_true.1 h
      exact ⟨fun _ ↦ .inr ⟨c, .inr hc, hsep⟩, fun _ ↦ ⟨_, rfl⟩⟩
    next htrail =>
    constructor
    · rintro ⟨fault, h⟩
      cases h
    · rintro (h | ⟨c, hc | hc, hsep⟩)
      · exact absurd h hdigits
      · exact absurd (List.any_eq_true.2 ⟨c, hc, hsep⟩) hlead
      · exact absurd (List.any_eq_true.2 ⟨c, hc, hsep⟩) htrail

theorem not_unreadable {cs : List Char} (hseparator : ∀ c ∈ cs, Text.isSeparator c = false)
    (hdigits : ∀ n, Spells cs n → n.digits.length ≤ maxNumeralDigits) : ¬ Unreadable cs := by
  rintro ⟨n, hn, hlong | ⟨c, hc, hsep⟩⟩
  · exact absurd (hdigits n hn) (Nat.not_le.2 hlong)
  · obtain ⟨sign, digits, rfl, -⟩ := hn
    have hmem : c ∈ n.leading ++ (sign ++ (digits ++ n.trailing)) := by
      rcases List.mem_append.1 hc with hc | hc
      · exact List.mem_append_left _ hc
      · exact List.mem_append_right _ (List.mem_append_right _ (List.mem_append_right _ hc))
    rw [hseparator c hmem] at hsep
    cases hsep

theorem fault_of_parse {text : String} {fault : Fault} (h : parse text = .error fault) :
    (∃ digits, fault = .oversizedNumeral digits) ∨ ∃ text, fault = .malformedNumeral text := by
  unfold parse at h
  split at h
  · cases h
  · split at h
    · cases h
      exact .inr ⟨_, rfl⟩
    · split at h
      · cases h
        exact .inl ⟨_, rfl⟩
      · split at h <;> cases h
        exact .inr ⟨_, rfl⟩

def Denotes (cs : List Char) (value : Int) : Prop :=
  ∃ n, Spells cs n ∧ n.value = value

section Denotes

variable {cs : List Char} {value value' : Int}

theorem Denotes.unique (h : Denotes cs value) (h' : Denotes cs value') : value = value' := by
  obtain ⟨n, hn, rfl⟩ := h
  obtain ⟨n', hn', rfl⟩ := h'
  obtain rfl := Option.some.inj ((scan?_of_spells hn).symm.trans (scan?_of_spells hn'))
  rfl

theorem Denotes.ne_nil (h : Denotes cs value) : cs ≠ [] := by
  obtain ⟨n, ⟨sign, digits, rfl, -, -, hne, -, -⟩, -⟩ := h
  simp [hne]

theorem Denotes.not_mem (h : Denotes cs value) {c : Char} (hblank : Text.isBlank c = false)
    (hdigit : Text.asciiDigit? c = none) (hminus : c ≠ '-') (hplus : c ≠ '+') : c ∉ cs := by
  obtain ⟨n, ⟨sign, digits, rfl, hlead, hsign, -, hmap, htrail⟩, -⟩ := h
  intro hc
  rcases List.mem_append.1 hc with hc | hc
  · cases hblank.symm.trans (hlead c hc)
  rcases List.mem_append.1 hc with hc | hc
  · rcases hsign with ⟨rfl, -⟩ | ⟨rfl | rfl, -⟩
    · exact hminus (List.mem_singleton.1 hc)
    · exact absurd hc List.not_mem_nil
    · exact hplus (List.mem_singleton.1 hc)
  rcases List.mem_append.1 hc with hc | hc
  · have hsome := isSome_of_map_eq hmap hc
    rw [hdigit] at hsome
    cases hsome
  · cases hblank.symm.trans (htrail c hc)

theorem denotes_of_parse {text : String} (h : parse text = .ok (some value)) :
    Denotes text.toList value := by
  unfold parse at h
  split at h
  · cases h
  next n hscan =>
  refine ⟨n, scan?_eq_some_iff.1 hscan, ?_⟩
  split at h
  · cases h
  split at h
  · cases h
  split at h
  · cases h
  · exact Option.some.inj (Except.ok.inj h)

theorem not_denotes_of_parse {text : String} (h : parse text = .ok none) (value : Int) :
    ¬ Denotes text.toList value := by
  rintro ⟨n, hn, -⟩
  unfold parse at h
  rw [scan?_of_spells hn] at h
  dsimp only at h
  split at h
  · cases h
  split at h
  · cases h
  split at h <;> cases h

theorem parse_of_denotes {text : String} (hreadable : ¬ Unreadable text.toList)
    (h : Denotes text.toList value) : parse text = .ok (some value) := by
  cases hparse : parse text with
  | error fault => exact absurd (parse_eq_error_iff.1 ⟨fault, hparse⟩) hreadable
  | ok value? =>
    cases value? with
    | none => exact absurd h (not_denotes_of_parse hparse value)
    | some value' =>
      obtain rfl := (denotes_of_parse hparse).unique h
      rfl

end Denotes

def decimalDigits (n : Nat) : List Nat :=
  (Nat.toDigits 10 n).map fun c ↦ c.toNat - '0'.toNat

theorem ofDigits_decimalDigits (n : Nat) : ofDigits (decimalDigits n) = n := by
  rw [ofDigits, decimalDigits, List.foldl_map]
  exact Nat.ofDigitChars_toDigits (by decide) (by decide)

theorem toList_toString_ne_nil (n : Nat) : (toString n).toList ≠ [] := by
  rw [Nat.toString_eq_repr, Nat.toList_repr]
  exact List.ne_nil_of_length_pos Nat.length_toDigits_pos

theorem not_isBlank_of_mem_toString {n : Nat} {c : Char} (h : c ∈ (toString n).toList) :
    Text.isBlank c = false := by
  rw [Nat.toString_eq_repr, Nat.toList_repr] at h
  have hdigit := Text.asciiDigit?_of_isDigit
    (Nat.isDigit_of_mem_toDigits (by decide) (by decide) h)
  exact Text.not_isBlank_of_digit (Option.isSome_of_eq_some hdigit)

theorem spells_toString (n : Nat) :
    Spells (toString n).toList ⟨[], false, decimalDigits n, []⟩ := by
  have hdigit : ∀ c ∈ Nat.toDigits 10 n, Text.asciiDigit? c = some (c.toNat - '0'.toNat) :=
    fun c hc ↦ Text.asciiDigit?_of_isDigit (Nat.isDigit_of_mem_toDigits (by decide) (by decide) hc)
  have hne : Nat.toDigits 10 n ≠ [] := List.ne_nil_of_length_pos Nat.length_toDigits_pos
  refine ⟨[], Nat.toDigits 10 n, ?_, ?_, .inr ⟨.inl rfl, rfl⟩, hne, ?_, ?_⟩
  · rw [Nat.toString_eq_repr, Nat.toList_repr, List.append_nil]
    rfl
  · exact fun c hc ↦ absurd hc List.not_mem_nil
  · rw [decimalDigits, List.map_map]
    exact List.map_congr_left hdigit
  · exact fun c hc ↦ absurd hc List.not_mem_nil

/-- A number in decimal is read back, if it has no more digits than are read. -/
theorem parse_toString {n : Nat} (h : (toString n).length ≤ maxNumeralDigits) :
    parse (toString n) = .ok (some n) := by
  have hlength : (decimalDigits n).length = (toString n).length := by
    rw [decimalDigits, List.length_map, ← String.length_toList, Nat.toString_eq_repr,
      Nat.toList_repr]
  have hfits : ¬ maxNumeralDigits < (decimalDigits n).length := by omega
  have hvalue : value ⟨[], false, decimalDigits n, []⟩ = n :=
    congrArg (Nat.cast : Nat → Int) (ofDigits_decimalDigits n)
  simp only [parse, scan?_of_spells (spells_toString n), List.any_nil, Bool.false_eq_true,
    if_false, if_neg hfits, hvalue]

end Numeral

end BatchScaler

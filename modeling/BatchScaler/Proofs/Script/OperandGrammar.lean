import Mathlib.Data.List.TakeWhile
import BatchScaler.Proofs.Report.Results
import BatchScaler.Proofs.Script.Operands

namespace BatchScaler

namespace Dimensions

def Spells (operand : List Char) (d : Dimensions) : Prop :=
  ∃ width c height, operand = width ++ c :: height ∧ isCross c = true ∧
    Numeral.Denotes width d.width ∧ Numeral.Denotes height d.height

/-- The two texts that are read as numerals. As the place of the `x` is counted in lower case, the
cut lies further right where U+0130 stands before it. -/
def sides (operand : List Char) : List (List Char) :=
  match crossPlace? operand with
  | some place => [operand.take place, operand.drop (place + 1)]
  | none => []

/-- An operand within the limits of numerals: it holds none of U+001C to U+001F, and neither side is
a numeral of more digits than are read. -/
structure WithinLimits (operand : List Char) : Prop where
  not_separator : ∀ c ∈ operand, Text.isSeparator c = false
  digits_le : ∀ side ∈ sides operand, ∀ n, Numeral.Spells side n →
    n.digits.length ≤ maxNumeralDigits

variable {operand before after : List Char} {token : String} {d : Dimensions} {c : Char}

theorem not_mem_of_denotes {cs : List Char} {value : Int} (h : Numeral.Denotes cs value) :
    (∀ b ∈ cs, isCross b = false) ∧ dottedCapitalI ∉ cs := by
  constructor
  · intro b hb
    rw [Bool.eq_false_iff]
    intro hcross
    rw [isCross, Bool.or_eq_true, beq_iff_eq, beq_iff_eq] at hcross
    rcases hcross with rfl | rfl
    · exact h.not_mem (by decide) (by decide) (by decide) (by decide) hb
    · exact h.not_mem (by decide) (by decide) (by decide) (by decide) hb
  · exact h.not_mem (by decide) (by decide) (by decide) (by decide)

theorem crossPlace?_append (hcross : isCross c = true) (hbefore : ∀ b ∈ before, isCross b = false)
    (after : List Char) :
    crossPlace? (before ++ c :: after) = some (before.length + before.count dottedCapitalI) := by
  have hspan : (before ++ c :: after).takeWhile (!isCross ·) = before :=
    (Text.span_append (fun b hb ↦ by rw [hbefore b hb]; rfl)
      fun b hb ↦ by cases hb; rw [hcross]; rfl).1
  have hany : (before ++ c :: after).any isCross = true :=
    List.any_eq_true.2 ⟨c, List.mem_append_right _ List.mem_cons_self, hcross⟩
  unfold crossPlace?
  dsimp only
  rw [hspan, if_pos hany]

theorem crossPlace?_eq_none (h : ∀ c ∈ operand, ¬ isCross c = true) : crossPlace? operand = none :=
  if_neg (Bool.eq_false_iff.1 (List.any_eq_false.2 h))

theorem split_of_crossPlace? {place : Nat} (h : crossPlace? operand = some place)
    (hdotted : dottedCapitalI ∉ operand.take place) :
    ∃ c, isCross c = true ∧ operand = operand.take place ++ c :: operand.drop (place + 1) := by
  cases hfind : operand.find? isCross with
  | none =>
    rw [crossPlace?_eq_none (List.find?_eq_none.1 hfind)] at h
    cases h
  | some c =>
    obtain ⟨hcross, before, after, rfl, hnone⟩ := List.find?_eq_some_iff_append.1 hfind
    have hbefore : ∀ b ∈ before, isCross b = false := fun b hb ↦ by simpa using hnone b hb
    rw [crossPlace?_append hcross hbefore] at h
    obtain rfl := Option.some.inj h
    -- Nothing before the cut is longer in lower case, so the place is that of the `x` itself.
    have hcount : before.count dottedCapitalI = 0 := by
      rw [List.count_eq_zero]
      intro hmem
      refine hdotted ?_
      rw [List.take_length_add_append]
      exact List.mem_append_left _ hmem
    refine ⟨c, hcross, ?_⟩
    rw [hcount, Nat.add_zero, List.take_left, List.drop_length_add_append]
    rfl

theorem WithinLimits.readable (h : WithinLimits (Text.trimChars token.toList)) :
    ¬ Unreadable token := by
  rintro ⟨place, hplace, -, hside⟩
  have hsides : sides (Text.trimChars token.toList) =
      [(Text.trimChars token.toList).take place,
        (Text.trimChars token.toList).drop (place + 1)] := by
    unfold sides
    rw [hplace]
  have hdigits := h.digits_le
  rw [hsides] at hdigits
  rcases hside with hwidth | hheight
  · refine Numeral.not_unreadable (fun c hc ↦ ?_) (hdigits _ List.mem_cons_self) hwidth
    exact h.not_separator c (List.mem_of_mem_take hc)
  · refine Numeral.not_unreadable (fun c hc ↦ ?_)
      (hdigits _ (List.mem_cons_of_mem _ List.mem_cons_self)) hheight
    exact h.not_separator c (List.mem_of_mem_drop hc)

theorem cut_of_denotes {width : List Char} {value : Int} (h : Numeral.Denotes width value)
    (hcross : isCross c = true) (height : List Char) :
    ∃ place, crossPlace? (width ++ c :: height) = some (place + 1) ∧
      (width ++ c :: height).take (place + 1) = width ∧
      (width ++ c :: height).drop (place + 1 + 1) = height := by
  obtain ⟨hbefore, hdotted⟩ := not_mem_of_denotes h
  obtain ⟨place, hlength⟩ : ∃ place, width.length = place + 1 :=
    Nat.exists_eq_succ_of_ne_zero (List.length_pos_iff.2 h.ne_nil).ne'
  refine ⟨place, ?_, ?_, ?_⟩
  · rw [crossPlace?_append hcross hbefore, List.count_eq_zero.2 hdotted, hlength]
  · rw [← hlength, List.take_left]
  · rw [← hlength, List.drop_length_add_append]
    rfl

theorem spells_of_parse (h : parse token = .ok (.ok d)) :
    Spells (Text.trimChars token.toList) d := by
  have htrim : (Text.trim token).toList = Text.trimChars token.toList := String.toList_ofList
  unfold parse parseTrimmed at h
  dsimp only at h
  rw [htrim] at h
  split at h
  · cases h
  · cases h
  next place _ hplace =>
  obtain ⟨width?, hwidth, h⟩ := Except.bind_eq_ok_iff.1 h
  obtain ⟨height?, hheight, h⟩ := Except.bind_eq_ok_iff.1 h
  split at h
  · next width height =>
    split at h
    · cases h
    next hnonneg =>
    cases h
    rw [not_or, Int.not_lt, Int.not_lt] at hnonneg
    have hwidth := Numeral.denotes_of_parse hwidth
    have hheight := Numeral.denotes_of_parse hheight
    rw [String.toList_ofList] at hwidth hheight
    obtain ⟨c, hc, hsplit⟩ := split_of_crossPlace? hplace (not_mem_of_denotes hwidth).2
    refine ⟨_, c, _, hsplit, hc, ?_, ?_⟩
    · rwa [Int.toNat_of_nonneg hnonneg.1]
    · rwa [Int.toNat_of_nonneg hnonneg.2]
  · cases h

theorem parse_of_sides {width height : List Char}
    (hsplit : Text.trimChars token.toList = width ++ c :: height) (hcross : isCross c = true)
    (hwidth : Numeral.parse (String.ofList width) = .ok (some (d.width : Int)))
    (hheight : Numeral.parse (String.ofList height) = .ok (some (d.height : Int))) :
    parse token = .ok (.ok d) := by
  have htrim : (Text.trim token).toList = Text.trimChars token.toList := String.toList_ofList
  have hdenotes := Numeral.denotes_of_parse hwidth
  rw [String.toList_ofList] at hdenotes
  obtain ⟨place, hplace, htake, hdrop⟩ := cut_of_denotes hdenotes hcross height
  have hnonneg : ¬ ((d.width : Int) < 0 ∨ (d.height : Int) < 0) := by omega
  unfold parse parseTrimmed
  simp only [htrim, hsplit, hplace, htake, hdrop]
  refine Except.bind_eq_ok_iff.2 ⟨_, hwidth, Except.bind_eq_ok_iff.2 ⟨_, hheight, ?_⟩⟩
  exact if_neg hnonneg

theorem parse_of_spells (hreadable : ¬ Unreadable token)
    (h : Spells (Text.trimChars token.toList) d) : parse token = .ok (.ok d) := by
  obtain ⟨width, c, height, hsplit, hcross, hwidth, hheight⟩ := h
  obtain ⟨place, hplace, htake, hdrop⟩ := cut_of_denotes hwidth hcross height
  rw [← hsplit] at hplace htake hdrop
  -- An operand is unreadable by a side that is a numeral, which is then cut off as it stands.
  have hreadWidth : ¬ Numeral.Unreadable width := fun hun ↦
    hreadable ⟨place + 1, hplace, Nat.succ_pos place, .inl (by rwa [htake])⟩
  have hreadHeight : ¬ Numeral.Unreadable height := fun hun ↦
    hreadable ⟨place + 1, hplace, Nat.succ_pos place, .inr (by rwa [hdrop])⟩
  refine parse_of_sides hsplit hcross ?_ ?_
  · exact Numeral.parse_of_denotes (by rwa [String.toList_ofList]) (by rwa [String.toList_ofList])
  · exact Numeral.parse_of_denotes (by rwa [String.toList_ofList]) (by rwa [String.toList_ofList])

theorem rejection_of_parse {rejection : Rejection} (h : parse token = .ok (.error rejection)) :
    rejection = .malformed (Text.trim token) ∨ rejection = .negative (Text.trim token) := by
  unfold parse parseTrimmed at h
  dsimp only at h
  split at h
  · cases h
    exact .inl rfl
  · cases h
    exact .inl rfl
  obtain ⟨width?, -, h⟩ := Except.bind_eq_ok_iff.1 h
  obtain ⟨height?, -, h⟩ := Except.bind_eq_ok_iff.1 h
  split at h
  · split at h
    · cases h
      exact .inr rfl
    · cases h
  · cases h
    exact .inl rfl

theorem trimChars_decimals (width height : Nat) (c : Char) :
    Text.trimChars ((toString width).toList ++ c :: (toString height).toList) =
      (toString width).toList ++ c :: (toString height).toList := by
  refine Text.trimChars_of_ends (fun b hb ↦ ?_) (fun b hb ↦ ?_)
  · obtain ⟨first, rest, hfirst⟩ :=
      List.exists_cons_of_ne_nil (Numeral.toList_toString_ne_nil width)
    rw [hfirst] at hb
    obtain rfl := Option.some.inj hb
    exact Numeral.not_isBlank_of_mem_toString (hfirst ▸ List.mem_cons_self)
  · rcases List.eq_nil_or_concat (toString height).toList with hnil | ⟨init, last, hlast⟩
    · exact absurd hnil (Numeral.toList_toString_ne_nil height)
    · rw [List.concat_eq_append] at hlast
      rw [hlast, ← List.cons_append, ← List.append_assoc, List.getLast?_concat] at hb
      obtain rfl := Option.some.inj hb
      exact Numeral.not_isBlank_of_mem_toString (hlast ▸ List.mem_append_right _ List.mem_cons_self)

theorem parse_decimals {width height : Nat} (hwidth : (toString width).length ≤ maxNumeralDigits)
    (hheight : (toString height).length ≤ maxNumeralDigits) :
    parse (toString width ++ "x" ++ toString height) = .ok (.ok ⟨width, height⟩) := by
  have hchars : (toString width ++ "x" ++ toString height).toList =
      (toString width).toList ++ 'x' :: (toString height).toList := by
    rw [String.toList_append, String.toList_append, List.append_assoc]
    rfl
  refine parse_of_sides ((congrArg _ hchars).trans (trimChars_decimals width height 'x')) rfl ?_ ?_
  · rw [String.ofList_toList]
    exact Numeral.parse_toString hwidth
  · rw [String.ofList_toList]
    exact Numeral.parse_toString hheight

/-- A size is read from exactly the operands that spell one, and every other operand is refused. -/
theorem parse_accepts_sizes (h : WithinLimits (Text.trimChars token.toList)) :
    (∀ d, parse token = .ok (.ok d) ↔ Spells (Text.trimChars token.toList) d) ∧
    ((∀ d, ¬ Spells (Text.trimChars token.toList) d) →
      parse token = .ok (.error (.malformed (Text.trim token))) ∨
        parse token = .ok (.error (.negative (Text.trim token)))) ∧
    ∀ width height : Nat, (toString width).length ≤ maxNumeralDigits →
      (toString height).length ≤ maxNumeralDigits →
        parse (toString width ++ "x" ++ toString height) = .ok (.ok ⟨width, height⟩) := by
  refine ⟨fun d ↦ ⟨spells_of_parse, parse_of_spells h.readable⟩, fun hnone ↦ ?_,
    fun _ _ ↦ parse_decimals⟩
  cases hparse : parse token with
  | error fault => exact absurd (parse_eq_error_iff.1 ⟨fault, hparse⟩) h.readable
  | ok answer =>
    cases answer with
    | ok d => exact absurd (spells_of_parse hparse) (hnone d)
    | error rejection =>
      rcases rejection_of_parse hparse with rfl | rfl
      · exact .inl rfl
      · exact .inr rfl

theorem parse_accepts_sizes_signed :
    WithinLimits (Text.trimChars " -0 X+007\n".toList) ∧
      parse " -0 X+007\n" = .ok (.ok ⟨0, 7⟩) ∧ parse "1024x0" = .ok (.ok ⟨1024, 0⟩) := by
  have hwidth : Numeral.scan? "-0 ".toList = some ⟨[], true, [0], [' ']⟩ := by decide
  have hheight : Numeral.scan? "+007".toList = some ⟨[], false, [0, 0, 7], []⟩ := by decide
  have hsides : sides (Text.trimChars " -0 X+007\n".toList) = ["-0 ".toList, "+007".toList] := by
    decide
  have hseparator : (Text.trimChars " -0 X+007\n".toList).any Text.isSeparator = false := by decide
  have hlimits : WithinLimits (Text.trimChars " -0 X+007\n".toList) := by
    refine ⟨fun c hc ↦ Bool.eq_false_iff.2 (List.any_eq_false.1 hseparator c hc), ?_⟩
    rw [hsides]
    intro side hside n hn
    have hscan := Numeral.scan?_of_spells hn
    rw [List.mem_cons, List.mem_singleton] at hside
    rcases hside with rfl | rfl
    · cases hwidth.symm.trans hscan
      decide
    · cases hheight.symm.trans hscan
      decide
  obtain ⟨haccepts, -, hdecimal⟩ := parse_accepts_sizes hlimits
  refine ⟨hlimits, (haccepts ⟨0, 7⟩).2 ?_, hdecimal 1024 0 (by decide) (by decide)⟩
  exact ⟨_, 'X', _, by decide, rfl, ⟨_, Numeral.scan?_eq_some_iff.1 hwidth, rfl⟩,
    ⟨_, Numeral.scan?_eq_some_iff.1 hheight, rfl⟩⟩

end Dimensions

namespace FilterSpec

/-- The form of an operand that says how often to apply its filter: it ends in a closing
parenthesis, and has an opening one that is not its first character. -/
def HasCount (operand : List Char) : Prop :=
  operand.getLast? = some ')' ∧ '(' ∈ operand ∧ operand.head? ≠ some '('

/-- How often a text in parentheses asks for its filter: as often as the numeral says, and once if
it is none or says less. -/
def Counts (count : List Char) (repeats : Nat) : Prop :=
  (∃ n, Numeral.Denotes count n ∧ 1 ≤ n ∧ (repeats : Int) = n) ∨
    (∀ n, Numeral.Denotes count n → n < 1) ∧ repeats = 1

variable {operand name count : List Char} {token : String} {spec : FilterSpec}

theorem splitCount?_eq_some_iff :
    splitCount? operand = some (name, count) ↔
      name ≠ [] ∧ '(' ∉ name ∧ operand = name ++ '(' :: (count ++ [')']) := by
  constructor
  · intro h
    have hsplit := List.takeWhile_append_dropWhile (p := (· != '(')) (l := operand)
    have hopen : '(' ∉ operand.takeWhile (· != '(') := fun hmem ↦ by
      simpa using List.all_eq_true.1 List.all_takeWhile _ hmem
    have hhead := List.head?_dropWhile_not (· != '(') operand
    unfold splitCount? at h
    cases hrest : operand.dropWhile (· != '(') with
    | nil =>
      rw [hrest] at h
      cases h
    | cons c inner =>
      rw [hrest] at h hsplit hhead
      obtain rfl : c = '(' := by simpa using hhead
      change (if operand.takeWhile (· != '(') ≠ [] ∧ inner.getLast? = some ')' then
        some (operand.takeWhile (· != '('), inner.dropLast) else none) = some (name, count) at h
      split at h
      · next hcond =>
        cases h
        exact ⟨hcond.1, hopen, by rw [List.dropLast_append_getLast? _ hcond.2, hsplit]⟩
      · cases h
  · rintro ⟨hne, hopen, rfl⟩
    exact splitCount?_append hne hopen count

theorem hasCount_iff :
    HasCount operand ↔ ∃ name count, splitCount? operand = some (name, count) := by
  simp only [splitCount?_eq_some_iff]
  constructor
  · rintro ⟨hlast, hmem, hhead⟩
    obtain ⟨name, inner, rfl, hopen⟩ := List.eq_append_cons_of_mem hmem
    have hne : name ≠ [] := by
      rintro rfl
      exact hhead rfl
    rcases List.eq_nil_or_concat inner with rfl | ⟨count, last, rfl⟩
    · rw [List.getLast?_concat] at hlast
      cases hlast
    · rw [List.concat_eq_append] at hlast ⊢
      rw [← List.cons_append, ← List.append_assoc, List.getLast?_concat] at hlast
      obtain rfl := Option.some.inj hlast
      exact ⟨name, count, hne, hopen, rfl⟩
  · rintro ⟨name, count, hne, hopen, rfl⟩
    refine ⟨?_, List.mem_append_right _ List.mem_cons_self, ?_⟩
    · rw [← List.cons_append, ← List.append_assoc, List.getLast?_concat]
    · obtain ⟨first, rest, rfl⟩ := List.exists_cons_of_ne_nil hne
      intro hhead
      obtain rfl := Option.some.inj hhead
      exact hopen List.mem_cons_self

theorem counts_of_parse {count? : Option Int}
    (h : Numeral.parse (String.ofList count) = .ok count?) : Counts count (countOf count?) := by
  cases count? with
  | none =>
    refine .inr ⟨fun n hn ↦ ?_, rfl⟩
    have hnone := Numeral.not_denotes_of_parse h n
    rw [String.toList_ofList] at hnone
    exact absurd hn hnone
  | some n =>
    have hdenotes := Numeral.denotes_of_parse h
    rw [String.toList_ofList] at hdenotes
    show Counts count (if n < 1 then 1 else n.toNat)
    split
    · next hsmall =>
      refine .inr ⟨fun m hm ↦ ?_, rfl⟩
      rwa [hm.unique hdenotes]
    · next hlarge =>
      exact .inl ⟨n, hdenotes, by omega, by omega⟩

def Reads (operand : List Char) (spec : FilterSpec) : Prop :=
  (HasCount operand ∧ spec.name ≠ "" ∧ '(' ∉ spec.name.toList ∧
    ∃ count, operand = spec.name.toList ++ '(' :: (count ++ [')']) ∧ Counts count spec.repeats) ∨
  ¬ HasCount operand ∧ spec.name.toList = operand ∧ spec.repeats = 1

theorem Reads.name_prefix (h : Reads operand spec) : spec.name.toList <+: operand := by
  rcases h with ⟨-, -, -, count, rfl, -⟩ | ⟨-, hname, -⟩
  · exact List.prefix_append _ _
  · exact hname ▸ List.prefix_rfl

theorem Reads.one_le_repeats (h : Reads operand spec) : 1 ≤ spec.repeats := by
  rcases h with ⟨-, -, -, count, -, hcounts⟩ | ⟨-, -, hrepeats⟩
  · rcases hcounts with ⟨n, -, hn, hrepeats⟩ | ⟨-, hrepeats⟩ <;> omega
  · exact hrepeats.ge

theorem reads_of_parse (h : parse token = .ok spec) : Reads (Text.trimChars token.toList) spec := by
  unfold parse at h
  dsimp only at h
  cases hsplit : splitCount? (Text.trimChars token.toList) with
  | none =>
    rw [hsplit] at h
    cases h
    refine .inr ⟨fun hcount ↦ ?_, String.toList_ofList, rfl⟩
    obtain ⟨name, count, hsome⟩ := hasCount_iff.1 hcount
    cases hsplit.symm.trans hsome
  | some parts =>
    obtain ⟨name, count⟩ := parts
    obtain ⟨hne, hopen, hoperand⟩ := splitCount?_eq_some_iff.1 hsplit
    rw [hsplit] at h
    obtain ⟨count?, hparse, h⟩ := Except.bind_eq_ok_iff.1 h
    cases h
    refine .inl ⟨hasCount_iff.2 ⟨name, count, hsplit⟩, ?_, ?_, count, ?_, counts_of_parse hparse⟩
    · exact fun hempty ↦ hne (String.ofList_eq_empty_iff.1 hempty)
    · rwa [String.toList_ofList]
    · rwa [String.toList_ofList]

/-- To read an operand undoes the notation `name(count)`, also between blanks, and whatever is read
is what the operand says. -/
theorem parse_notation :
    (∀ (left name right : String) (k : Nat), name ≠ "" → '(' ∉ name.toList →
      (∀ c, name.toList.head? = some c → Text.isBlank c = false) → 1 ≤ k →
      (toString k).length ≤ maxNumeralDigits → (∀ c ∈ left.toList, Text.isBlank c) →
      (∀ c ∈ right.toList, Text.isBlank c) →
        parse (left ++ (name ++ "(" ++ toString k ++ ")") ++ right) = .ok ⟨name, k⟩) ∧
    ∀ token spec, parse token = .ok spec →
      1 ≤ spec.repeats ∧ spec.name.toList <+: Text.trimChars token.toList ∧
        Reads (Text.trimChars token.toList) spec := by
  constructor
  · intro left name right k hne hopen hhead hk hdigits hleft hright
    have hne' : name.toList ≠ [] := fun h ↦ hne (String.toList_eq_nil_iff.1 h)
    refine parse_of_counted hne' hopen hk hdigits ?_
    rw [String.toList_append, String.toList_append, List.append_assoc,
      Text.trimChars_append hleft hright, toList_counted]
    exact trimChars_counted hne' hhead _
  · intro token spec h
    have hreads := reads_of_parse h
    exact ⟨hreads.one_le_repeats, hreads.name_prefix, hreads⟩

/-- A name that ends in a blank, and a count that holds parentheses. -/
theorem parse_notation_parentheses :
    parse ("\t" ++ (") x " ++ "(" ++ toString 12 ++ ")") ++ "\n") = .ok ⟨") x ", 12⟩ ∧
      parse "a(2)(3)" = .ok ⟨"a", 1⟩ ∧ Reads "a(2)(3)".toList ⟨"a", 1⟩ := by
  have hparse : parse "a(2)(3)" = .ok ⟨"a", 1⟩ := by decide +kernel
  obtain ⟨hcounted, hread⟩ := parse_notation
  have hname : '(' ∉ ") x ".toList := by decide
  have hhead : ∀ c, ") x ".toList.head? = some c → Text.isBlank c = false := by
    intro c hc
    obtain rfl := Option.some.inj hc
    rfl
  have hleft : ∀ c ∈ "\t".toList, Text.isBlank c := List.all_eq_true.1 (by decide)
  have hright : ∀ c ∈ "\n".toList, Text.isBlank c := List.all_eq_true.1 (by decide)
  exact ⟨hcounted _ _ _ 12 (by decide) hname hhead (by decide) (by decide) hleft hright, hparse,
    (hread _ _ hparse).2.2⟩

end FilterSpec

end BatchScaler

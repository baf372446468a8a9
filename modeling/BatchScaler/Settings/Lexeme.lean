import BatchScaler.Number.Numeral
import BatchScaler.Settings.Value

namespace BatchScaler

inductive Lexeme
  | openList
  | closeList
  | openObject
  | closeObject
  | comma
  | colon
  | text (points : Points)
  | scalar (value : Value)

def isGap (c : Char) : Bool :=
  c == ' ' || c == '\t' || c == '\n' || c == '\r'

def hexDigit? (c : Char) : Option Nat :=
  if '0' ≤ c ∧ c ≤ '9' then some (c.toNat - '0'.toNat)
  else if 'a' ≤ c ∧ c ≤ 'f' then some (c.toNat - 'a'.toNat + 10)
  else if 'A' ≤ c ∧ c ≤ 'F' then some (c.toNat - 'A'.toNat + 10)
  else none

def hexPoint? (a b c d : Char) : Option Nat := do
  let a ← hexDigit? a
  let b ← hexDigit? b
  let c ← hexDigit? c
  let d ← hexDigit? d
  return ((a * 16 + b) * 16 + c) * 16 + d

def letterEscape? (c : Char) : Option Nat :=
  [(Text.doubleQuote, Text.doubleQuote), (Text.backslash, Text.backslash), (0x2F, 0x2F),
    (0x62, 0x08), (0x66, 0x0C), (0x6E, 0x0A), (0x72, 0x0D), (0x74, 0x09)].lookup c.toNat

/-- Puts a code point before others; a high surrogate before a low one makes one code point with
it. -/
def joinPoint (point : Nat) (points : Points) : Points :=
  match points with
  | low :: rest =>
    if 0xD800 ≤ point ∧ point ≤ 0xDBFF ∧ 0xDC00 ≤ low ∧ low ≤ 0xDFFF then
      (0x10000 + (point - 0xD800) * 0x400 + (low - 0xDC00)) :: rest
    else point :: points
  | [] => [point]

def scanText? : List Char → Option (Points × List Char)
  | [] => none
  | c :: rest =>
    if c.toNat = Text.doubleQuote then some ([], rest)
    else if c.toNat < 0x20 then none
    else if c.toNat = Text.backslash then
      match rest with
      | 'u' :: h₁ :: h₂ :: h₃ :: h₄ :: rest => do
        let point ← hexPoint? h₁ h₂ h₃ h₄
        let (points, rest) ← scanText? rest
        return (joinPoint point points, rest)
      | e :: rest => do
        let point ← letterEscape? e
        let (points, rest) ← scanText? rest
        return (point :: points, rest)
      | [] => none
    else do
      let (points, rest) ← scanText? rest
      return (c.toNat :: points, rest)

def spanDigits (cs : List Char) : List Nat × List Char :=
  let isDigit (c : Char) : Bool := (Text.asciiDigit? c).isSome
  ((cs.takeWhile isDigit).filterMap Text.asciiDigit?, cs.dropWhile isDigit)

def scanWhole? (cs : List Char) : Option (List Nat × List Char) :=
  match cs with
  | '0' :: rest => some ([0], rest)
  | cs =>
    match spanDigits cs with
    | ([], _) => none
    | span => some span

def scanFraction (cs : List Char) : List Nat × List Char :=
  match cs with
  | '.' :: rest =>
    match spanDigits rest with
    | ([], _) => ([], cs)
    | span => span
  | cs => ([], cs)

def scanExponent (cs : List Char) : Option Int × List Char :=
  match cs with
  | c :: rest =>
    if c = 'e' ∨ c = 'E' then
      let (negative, digits) := splitSign rest
      match spanDigits digits with
      | ([], _) => (none, cs)
      | (digits, rest) => (some (withSign negative (ofDigits digits)), rest)
    else (none, cs)
  | [] => (none, [])

def numberValue? (negative : Bool) (whole fraction : List Nat) (exponent? : Option Int) :
    Option Value :=
  match fraction, exponent? with
  | [], none =>
    if maxNumeralDigits < whole.length then none
    else some (.integer (withSign negative (ofDigits whole)))
  | fraction, exponent? =>
    some (.real (.ofDecimal negative (ofDigits (whole ++ fraction))
      (exponent?.getD 0 - fraction.length)))

def scanNumber? (cs : List Char) : Option (Value × List Char) := do
  let negative := cs.head? == some '-'
  let (whole, rest) ← scanWhole? (if negative then cs.tail else cs)
  let (fraction, rest) := scanFraction rest
  let (exponent?, rest) := scanExponent rest
  let value ← numberValue? negative whole fraction exponent?
  return (value, rest)

def words : List (List Char × Value) :=
  [("null".toList, .null), ("true".toList, .boolean true), ("false".toList, .boolean false),
    ("NaN".toList, .real .notANumber), ("Infinity".toList, .real (.infinite false)),
    ("-Infinity".toList, .real (.infinite true))]

def scanWord? (cs : List Char) : Option (Value × List Char) :=
  (words.find? fun (word, _) => word.isPrefixOf cs).map fun (word, value) =>
    (value, cs.drop word.length)

def lexeme? : List Char → Option (Lexeme × List Char)
  | [] => none
  | c :: rest =>
    match c with
    | '[' => some (.openList, rest)
    | ']' => some (.closeList, rest)
    | '\x7b' => some (.openObject, rest)
    | '\x7d' => some (.closeObject, rest)
    | ',' => some (.comma, rest)
    | ':' => some (.colon, rest)
    | c =>
      if c.toNat = Text.doubleQuote then
        (scanText? rest).map fun (points, rest) => (.text points, rest)
      else
        ((scanWord? (c :: rest)).orElse fun _ => scanNumber? (c :: rest)).map
          fun (value, rest) => (.scalar value, rest)

theorem length_spanDigits (cs : List Char) : (spanDigits cs).2.length ≤ cs.length :=
  (List.dropWhile_suffix _).length_le

theorem length_spanDigits_lt {cs : List Char} (h : (spanDigits cs).1 ≠ []) :
    (spanDigits cs).2.length < cs.length := by
  cases cs with
  | nil => exact absurd rfl h
  | cons c rest =>
    by_cases hc : (Text.asciiDigit? c).isSome = true
    · have : (spanDigits (c :: rest)).2 = (spanDigits rest).2 := by
        simp [spanDigits, hc]
      rw [this]
      exact Nat.lt_succ_of_le (length_spanDigits rest)
    · exact absurd (by simp [spanDigits, hc]) h

theorem length_scanText? (cs : List Char) {points : Points} {rest : List Char}
    (h : scanText? cs = some (points, rest)) : rest.length < cs.length := by
  fun_induction scanText? cs generalizing points rest with
  | case1 => simp at h
  | case2 => simp at h; simp [← h.2]
  | case3 => simp at h
  | case4 =>
    rename_i ih
    simp only [Option.bind_eq_bind, Option.bind_eq_some_iff] at h
    obtain ⟨_, _, ⟨_, rest'⟩, hr, he⟩ := h
    simp at he
    have := ih hr
    rw [he.2] at this
    simp only [List.length_cons]
    omega
  | case5 =>
    rename_i ih
    simp only [Option.bind_eq_bind, Option.bind_eq_some_iff] at h
    obtain ⟨_, _, ⟨_, rest'⟩, hr, he⟩ := h
    simp at he
    have := ih hr
    rw [he.2] at this
    simp only [List.length_cons]
    omega
  | case6 => simp at h
  | case7 =>
    rename_i ih
    simp only [Option.bind_eq_bind, Option.bind_eq_some_iff] at h
    obtain ⟨⟨_, rest'⟩, hr, he⟩ := h
    simp at he
    have := ih hr
    rw [he.2] at this
    simp only [List.length_cons]
    omega

theorem length_scanWhole? {cs rest : List Char} {digits : List Nat}
    (h : scanWhole? cs = some (digits, rest)) : rest.length < cs.length := by
  unfold scanWhole? at h
  split at h
  · simp only [Option.some.injEq, Prod.mk.injEq] at h
    simp [← h.2]
  · split at h
    · exact absurd h (by simp)
    · next hs =>
      have : (spanDigits cs).1 ≠ [] → (spanDigits cs).2.length < cs.length := length_spanDigits_lt
      rw [Option.some.inj h] at this
      exact this fun hd => hs rest (by rw [Option.some.inj h]; exact congrArg (·, rest) hd)

theorem length_scanFraction (cs : List Char) : (scanFraction cs).2.length ≤ cs.length := by
  unfold scanFraction
  split
  · next rest =>
    split
    · exact Nat.le_refl _
    · exact Nat.le_succ_of_le (length_spanDigits rest)
  · exact Nat.le_refl _

theorem length_splitSign (cs : List Char) : (splitSign cs).2.length ≤ cs.length := by
  unfold splitSign
  split <;> simp

theorem length_scanExponent (cs : List Char) : (scanExponent cs).2.length ≤ cs.length := by
  unfold scanExponent
  split
  · next c rest =>
    split
    · simp only
      split
      · exact Nat.le_refl _
      · next digits tail hs =>
        have h₁ := length_spanDigits (splitSign rest).2
        have h₂ := length_splitSign rest
        rw [hs] at h₁
        simp only [List.length_cons] at h₁ ⊢
        omega
    · exact Nat.le_refl _
  · exact Nat.le_refl _

theorem length_scanNumber? {cs rest : List Char} {value : Value}
    (h : scanNumber? cs = some (value, rest)) : rest.length < cs.length := by
  simp only [scanNumber?, Option.bind_eq_bind, Option.bind_eq_some_iff] at h
  obtain ⟨⟨whole, afterWhole⟩, hw, _, _, he⟩ := h
  simp only [Option.pure_def, Option.some.injEq, Prod.mk.injEq] at he
  have h₁ := length_scanWhole? hw
  have h₂ := length_scanFraction afterWhole
  have h₃ := length_scanExponent (scanFraction afterWhole).2
  rw [he.2] at h₃
  split at h₁
  · rw [List.length_tail] at h₁; omega
  · omega

theorem length_scanWord? {cs rest : List Char} {value : Value}
    (h : scanWord? cs = some (value, rest)) : rest.length < cs.length := by
  obtain ⟨⟨word, v⟩, hf, he⟩ := Option.map_eq_some_iff.1 h
  have hp := List.find?_some hf
  replace hp : word <+: cs := List.isPrefixOf_iff_prefix.1 hp
  have hm : 0 < word.length :=
    (by decide : ∀ w ∈ words.map (·.1), 0 < w.length) word
      (List.mem_map_of_mem (List.mem_of_find?_eq_some hf))
  simp only [Prod.mk.injEq] at he
  have := hp.length_le
  rw [← he.2, List.length_drop]
  omega

theorem length_of_lexeme? {cs rest : List Char} {l : Lexeme}
    (h : lexeme? cs = some (l, rest)) : rest.length < cs.length := by
  unfold lexeme? at h
  split at h
  · simp at h
  · next c tail =>
    split at h
    iterate 6
      simp only [Option.some.injEq, Prod.mk.injEq] at h
      simp [← h.2]
    · split at h
      · obtain ⟨⟨points, r⟩, hs, he⟩ := Option.map_eq_some_iff.1 h
        simp only [Prod.mk.injEq] at he
        have := length_scanText? _ hs
        rw [he.2] at this
        exact Nat.lt_succ_of_lt this
      · obtain ⟨⟨value, r⟩, hs, he⟩ := Option.map_eq_some_iff.1 h
        simp only [Prod.mk.injEq] at he
        rw [← he.2]
        rcases hw : scanWord? (c :: tail) with _ | ⟨v, r'⟩
        · rw [hw] at hs
          exact length_scanNumber? hs
        · rw [hw] at hs
          simp only [Option.orElse_some, Option.some.injEq, Prod.mk.injEq] at hs
          rw [← hs.2]
          exact length_scanWord? hw

/-- The lexemes of a document, up to and including the first text that is none. -/
def lexemes (cs : List Char) : List (Option Lexeme) :=
  match _h : cs.dropWhile isGap with
  | [] => []
  | c :: rest =>
    match _h' : lexeme? (c :: rest) with
    | none => [none]
    | some (l, rest) => some l :: lexemes rest
termination_by cs.length
decreasing_by
  have h₁ := length_of_lexeme? _h'
  have h₂ := (List.dropWhile_suffix (l := cs) isGap).length_le
  rw [_h] at h₂
  omega

end BatchScaler

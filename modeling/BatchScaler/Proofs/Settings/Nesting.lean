import Mathlib.Algebra.BigOperators.Group.List.Basic
import Mathlib.Algebra.Order.Ring.Int
import BatchScaler.Proofs.Report.Results
import BatchScaler.Settings.Reader

namespace BatchScaler

def Lexeme.nesting : Lexeme → ℤ
  | openList => 1
  | openObject => 1
  | closeList => -1
  | closeObject => -1
  | _ => 0

def Lexeme.Opens (l : Lexeme) : Prop :=
  l.nesting = 1

def nestingOf (read : List Lexeme) : ℤ :=
  (read.map Lexeme.nesting).sum

theorem lexemes_nil : lexemes [] = [] := by
  rw [lexemes]
  rfl

theorem lexemes_of_lexeme? (cs rest : List Char) {l : Lexeme}
    (h : lexeme? (cs.dropWhile isGap) = some (l, rest)) : lexemes cs = some l :: lexemes rest := by
  rw [lexemes]
  split
  · next hnil =>
    rw [hnil] at h
    cases h
  · next c tail hcons =>
    rw [hcons] at h
    split
    · next hnone => cases hnone.symm.trans h
    · next l' rest' hsome =>
      cases hsome.symm.trans h
      rfl

variable {limit : Nat}

namespace ReaderState

def AwaitsValue (s : ReaderState) : Prop :=
  s.expectation = .value ∨ s.expectation = .firstItem

@[simp] theorem length_frames_supply (value : Value) (frames : List Frame) :
    (supply value frames).frames.length = frames.length := by
  rcases frames with _ | ⟨_ | _, frames⟩ <;> rfl

theorem start_eq_ok_iff {frame : Frame} {e : Expectation} {frames : List Frame} {s : ReaderState} :
    start limit frame e frames = .ok s ↔ frames.length < limit ∧ ⟨frame :: frames, e⟩ = s := by
  unfold start
  split <;> simp_all

theorem start_eq_error_iff {frame : Frame} {e : Expectation} {frames : List Frame}
    {failure : ReadFailure} :
    start limit frame e frames = .error failure ↔ failure = .tooDeep ∧ limit ≤ frames.length := by
  unfold start
  split
  · simpa using fun _ ↦ ‹frames.length < limit›
  · simp_all [eq_comm]

theorem length_frames_of_startValue {frames : List Frame} {l : Lexeme} {s : ReaderState}
    (h : startValue limit frames l = .ok s) :
    (s.frames.length : ℤ) = frames.length + l.nesting := by
  cases l with
  | openList =>
    obtain ⟨-, rfl⟩ := start_eq_ok_iff.1 h
    simp [Lexeme.nesting]
  | openObject =>
    obtain ⟨-, rfl⟩ := start_eq_ok_iff.1 h
    simp [Lexeme.nesting]
  | text points =>
    cases h
    simp [Lexeme.nesting]
  | scalar value =>
    cases h
    simp [Lexeme.nesting]
  | _ => cases h

theorem startValue_eq_tooDeep_iff {frames : List Frame} {l : Lexeme} :
    startValue limit frames l = .error .tooDeep ↔ l.Opens ∧ limit ≤ frames.length := by
  cases l <;> simp [startValue, start_eq_error_iff, Lexeme.Opens, Lexeme.nesting]

theorem length_frames_of_step {s s' : ReaderState} {l : Lexeme} (h : s.step limit l = .ok s') :
    (s'.frames.length : ℤ) = s.frames.length + l.nesting := by
  unfold step at h
  split at h
  · exact length_frames_of_startValue h
  · cases h
    simp_all [Lexeme.nesting]
  · exact length_frames_of_startValue h
  iterate 8
    · cases h
      simp_all [Lexeme.nesting]
  · cases h

theorem step_eq_tooDeep_iff {s : ReaderState} {l : Lexeme} :
    s.step limit l = .error .tooDeep ↔ s.AwaitsValue ∧ l.Opens ∧ limit ≤ s.frames.length := by
  unfold step
  split
  · simp_all [startValue_eq_tooDeep_iff, AwaitsValue]
  · simp_all [Lexeme.Opens, Lexeme.nesting, AwaitsValue]
  · simp_all [startValue_eq_tooDeep_iff, AwaitsValue]
  all_goals simp_all [AwaitsValue]

theorem length_frames_of_read {read : List Lexeme} {s s' : ReaderState}
    (h : read.foldlM (step limit) s = .ok s') :
    (s'.frames.length : ℤ) = s.frames.length + nestingOf read := by
  induction read generalizing s with
  | nil =>
    cases h
    simp [nestingOf]
  | cons l read ih =>
    obtain ⟨s₁, hl, hread⟩ := foldlM_cons_eq_ok_iff.1 h
    have hfirst := length_frames_of_step hl
    have hrest := ih hread
    rw [nestingOf, List.map_cons, List.sum_cons, ← nestingOf]
    omega

/-- Texts that are no lexemes do not go well, so only lexemes were read. -/
theorem foldlM_stepLexeme?_eq_ok_iff {texts : List (Option Lexeme)} {s s' : ReaderState} :
    texts.foldlM (stepLexeme? limit) s = .ok s' ↔
      ∃ read : List Lexeme, texts = read.map some ∧ read.foldlM (step limit) s = .ok s' := by
  induction texts generalizing s with
  | nil =>
    constructor
    · intro h
      exact ⟨[], rfl, h⟩
    · rintro ⟨read, hread, h⟩
      obtain rfl := List.map_eq_nil_iff.1 hread.symm
      exact h
  | cons text texts ih =>
    constructor
    · intro h
      obtain ⟨s₁, htext, h⟩ := foldlM_cons_eq_ok_iff.1 h
      obtain ⟨read, rfl, hread⟩ := ih.1 h
      cases text with
      | none => cases htext
      | some l => exact ⟨l :: read, rfl, foldlM_cons_eq_ok_iff.2 ⟨s₁, htext, hread⟩⟩
    · rintro ⟨_ | ⟨l, read⟩, htexts, h⟩
      · cases htexts
      · obtain ⟨rfl, rfl⟩ := List.cons.inj htexts
        obtain ⟨s₁, hl, hread⟩ := foldlM_cons_eq_ok_iff.1 h
        exact foldlM_cons_eq_ok_iff.2 ⟨s₁, hl, ih.2 ⟨read, rfl, hread⟩⟩

theorem stepLexeme?_eq_tooDeep_iff {s : ReaderState} {text : Option Lexeme} :
    s.stepLexeme? limit text = .error .tooDeep ↔
      ∃ l, text = some l ∧ s.step limit l = .error .tooDeep := by
  cases text <;> simp [stepLexeme?]

end ReaderState

/-- The document is in order up to a lexeme that opens a list or an object as a value, and there as
many are open already as may be. What follows that lexeme is not looked at. -/
def NestedTooDeep (limit : Nat) (document : List Char) : Prop :=
  ∃ (read : List Lexeme) (s : ReaderState) (l : Lexeme) (rest : List (Option Lexeme)),
    lexemes document = read.map some ++ some l :: rest ∧
      read.foldlM (ReaderState.step limit) {} = .ok s ∧
      s.AwaitsValue ∧ l.Opens ∧ limit ≤ nestingOf read

theorem foldlM_lexemes_eq_tooDeep_iff {document : List Char} :
    (lexemes document).foldlM (ReaderState.stepLexeme? limit) {} = .error .tooDeep ↔
      NestedTooDeep limit document := by
  rw [foldlM_eq_error_iff]
  constructor
  · rintro ⟨done, text, rest, s, htexts, hdone, htext⟩
    obtain ⟨read, rfl, hread⟩ := ReaderState.foldlM_stepLexeme?_eq_ok_iff.1 hdone
    obtain ⟨l, rfl, hl⟩ := ReaderState.stepLexeme?_eq_tooDeep_iff.1 htext
    obtain ⟨hawaits, hopens, hdeep⟩ := ReaderState.step_eq_tooDeep_iff.1 hl
    have hlength : (s.frames.length : ℤ) = _ := ReaderState.length_frames_of_read hread
    refine ⟨read, s, l, rest, htexts, hread, hawaits, hopens, ?_⟩
    simp only [List.length_nil] at hlength
    omega
  · rintro ⟨read, s, l, rest, htexts, hread, hawaits, hopens, hdeep⟩
    have hlength : (s.frames.length : ℤ) = _ := ReaderState.length_frames_of_read hread
    simp only [List.length_nil] at hlength
    exact ⟨read.map some, some l, rest, s, htexts,
      ReaderState.foldlM_stepLexeme?_eq_ok_iff.2 ⟨read, rfl, hread⟩,
      ReaderState.step_eq_tooDeep_iff.2 ⟨hawaits, hopens, by omega⟩⟩

/-- A byte order mark starts no lexeme. -/
theorem not_nestedTooDeep_of_mark {document : List Char} (h : document.head? = some '\uFEFF') :
    ¬ NestedTooDeep limit document := by
  obtain ⟨rest, rfl⟩ : ∃ rest, document = '\uFEFF' :: rest := by
    cases document with
    | nil => cases h
    | cons c rest => exact ⟨rest, by rw [Option.some.inj h]⟩
  have hnone : lexeme? ('\uFEFF' :: rest) = none := by
    have hword : scanWord? ('\uFEFF' :: rest) = none := rfl
    have hnumber : scanNumber? ('\uFEFF' :: rest) = none := rfl
    simp [lexeme?, hword, hnumber, Text.doubleQuote]
  rintro ⟨read, s, l, rest', hlexemes, -⟩
  have hgap : ('\uFEFF' :: rest).dropWhile isGap = '\uFEFF' :: rest := rfl
  have hlexemes' : lexemes ('\uFEFF' :: rest) = [none] := by
    unfold lexemes
    split
    · next hnil => cases hgap.symm.trans hnil
    · next c rest' hcons =>
      obtain ⟨rfl, rfl⟩ := List.cons.inj (hgap.symm.trans hcons)
      split
      · rfl
      · next hsome => cases hnone.symm.trans hsome
  rw [hlexemes'] at hlexemes
  cases read <;> cases hlexemes

theorem lexemes_brackets (n : Nat) (rest : List Char) :
    lexemes (List.replicate n '[' ++ rest) =
      (List.replicate n Lexeme.openList).map some ++ lexemes rest := by
  induction n with
  | zero => rfl
  | succ n ih =>
    rw [List.replicate_succ, List.cons_append, lexemes_of_lexeme? _ _ rfl, ih]
    rfl

theorem read_brackets {n : Nat} {s : ReaderState} (hs : s.AwaitsValue)
    (h : s.frames.length + n ≤ limit) :
    ∃ s', (List.replicate n Lexeme.openList).foldlM (ReaderState.step limit) s = .ok s' ∧
      s'.AwaitsValue := by
  induction n generalizing s with
  | zero => exact ⟨s, rfl, hs⟩
  | succ n ih =>
    have hopen : s.step limit .openList = .ok ⟨.list [] :: s.frames, .firstItem⟩ := by
      have hroom : s.frames.length < limit := by omega
      rcases s with ⟨frames, e⟩
      rcases hs with rfl | rfl <;> exact if_pos hroom
    obtain ⟨s', hread, hs'⟩ := ih (s := ⟨.list [] :: s.frames, .firstItem⟩) (.inr rfl)
      (by rw [List.length_cons]; omega)
    exact ⟨s', foldlM_cons_eq_ok_iff.2 ⟨_, hopen, hread⟩, hs'⟩

theorem nestedTooDeep_brackets (limit : Nat) (rest : List Char) :
    NestedTooDeep limit (List.replicate (limit + 1) '[' ++ rest) := by
  obtain ⟨s, hread, hs⟩ := read_brackets (n := limit) (s := {}) (.inl rfl) (Nat.zero_add _).le
  refine ⟨_, s, .openList, lexemes rest, ?_, hread, hs, rfl, ?_⟩
  · rw [lexemes_brackets, List.replicate_succ', List.map_append]
    simp
  · simp [nestingOf, Lexeme.nesting]

theorem Value.ofChars_eq_tooDeep_iff {document : List Char} :
    ofChars limit document = .error .tooDeep ↔ NestedTooDeep limit document := by
  unfold ofChars
  split
  · next hmark => simpa using not_nestedTooDeep_of_mark hmark
  · rw [← foldlM_lexemes_eq_tooDeep_iff]
    cases (lexemes document).foldlM (ReaderState.stepLexeme? limit) {} with
    | error failure => simp [bind, Except.bind]
    | ok s =>
      rcases s with ⟨frames, _ | _ | _ | _ | _ | _ | value⟩ <;> simp [bind, Except.bind]

theorem Value.ofBytes_eq_tooDeep_iff {bytes : ByteArray} :
    ofBytes limit bytes = .error .tooDeep ↔
      ∃ document, String.fromUTF8? bytes = some document ∧ NestedTooDeep limit document.toList := by
  unfold ofBytes
  split
  · next h => simp [h]
  · next document h => simp [h, ofChars_eq_tooDeep_iff]

end BatchScaler

import Mathlib.Data.List.TakeWhile
import BatchScaler.Proofs.Number.Grammar
import BatchScaler.Script.Dimensions
import BatchScaler.Script.FilterSpec

namespace BatchScaler

open Numeral

namespace Dimensions

/-- A size operand with a separator beyond its first character, and beside it a numeral that cannot
be read. -/
def Unreadable (token : String) : Prop :=
  ∃ place, crossPlace? (Text.trimChars token.toList) = some place ∧ 0 < place ∧
    (Numeral.Unreadable ((Text.trimChars token.toList).take place) ∨
      Numeral.Unreadable ((Text.trimChars token.toList).drop (place + 1)))

/-- Once both numerals are read the operand is judged, and that always comes to an answer. -/
theorem parseTrimmed_eq_error_iff {operand : String} {place : Nat}
    (h : crossPlace? operand.toList = some (place + 1)) :
    (∃ fault, parseTrimmed operand = .error fault) ↔
      Numeral.Unreadable (operand.toList.take (place + 1)) ∨
        Numeral.Unreadable (operand.toList.drop (place + 2)) := by
  have hwidth := @Numeral.parse_eq_error_iff (String.ofList (operand.toList.take (place + 1)))
  have hheight := @Numeral.parse_eq_error_iff (String.ofList (operand.toList.drop (place + 2)))
  rw [String.toList_ofList] at hwidth hheight
  rw [← hwidth, ← hheight]
  simp only [parseTrimmed, h, bind, Except.bind]
  cases hw : Numeral.parse (String.ofList (operand.toList.take (place + 1))) with
  | error fault => simp
  | ok width =>
    cases hh : Numeral.parse (String.ofList (operand.toList.drop (place + 2))) with
    | error fault => simp
    | ok height =>
      cases width with
      | none => simp [pure, Except.pure]
      | some width =>
        cases height with
        | none => simp [pure, Except.pure]
        | some height =>
          simp only [pure, Except.pure]
          split <;> simp

theorem parse_eq_error_iff {token : String} :
    (∃ fault, parse token = .error fault) ↔ Unreadable token := by
  have htrim : (Text.trim token).toList = Text.trimChars token.toList := String.toList_ofList
  unfold parse Unreadable
  rw [← htrim]
  cases hp : crossPlace? (Text.trim token).toList with
  | none => simp [parseTrimmed, hp]
  | some place =>
    cases place with
    | zero => simp [parseTrimmed, hp]
    | succ place =>
      rw [parseTrimmed_eq_error_iff hp]
      simp

theorem numeral_fault_of_parse {token : String} {fault : Fault} (h : parse token = .error fault) :
    ∃ text, Numeral.parse text = .error fault := by
  simp only [parse, parseTrimmed, bind, Except.bind] at h
  split at h
  · cases h
  · cases h
  split at h
  · next hw =>
    cases h
    exact ⟨_, hw⟩
  split at h
  · next hh =>
    cases h
    exact ⟨_, hh⟩
  split at h
  · split at h <;> cases h
  · cases h

end Dimensions

namespace FilterSpec

/-- A method operand of the form `name(count)` whose count is a numeral that cannot be read. -/
def Unreadable (token : String) : Prop :=
  ∃ name count, splitCount? (Text.trimChars token.toList) = some (name, count) ∧
    Numeral.Unreadable count

theorem parse_eq_error_iff {token : String} :
    (∃ fault, parse token = .error fault) ↔ Unreadable token := by
  unfold parse Unreadable
  cases hs : splitCount? (Text.trimChars token.toList) with
  | none => simp [hs]
  | some parts =>
    obtain ⟨name, count⟩ := parts
    have hcount := @Numeral.parse_eq_error_iff (String.ofList count)
    rw [String.toList_ofList] at hcount
    have hunique : (∃ name' count', some (name, count) = some (name', count') ∧
        Numeral.Unreadable count') ↔ Numeral.Unreadable count :=
      ⟨fun ⟨_, _, h, hu⟩ ↦ by cases h; exact hu, fun h ↦ ⟨name, count, rfl, h⟩⟩
    rw [hunique, ← hcount]
    simp only [hs]
    cases Numeral.parse (String.ofList count) with
    | error fault => simp [bind, Except.bind]
    | ok value => simp [bind, Except.bind, pure, Except.pure]

theorem numeral_fault_of_parse {token : String} {fault : Fault} (h : parse token = .error fault) :
    ∃ text, Numeral.parse text = .error fault := by
  simp only [parse, bind, Except.bind] at h
  split at h
  · cases h
  split at h
  · next hc =>
    cases h
    exact ⟨_, hc⟩
  · cases h

theorem splitCount?_append {name : List Char} (hne : name ≠ []) (hopen : '(' ∉ name)
    (count : List Char) : splitCount? (name ++ '(' :: (count ++ [')'])) = some (name, count) := by
  have hname : ∀ c ∈ name, (c != '(') = true := fun c hc ↦
    bne_iff_ne.2 fun h ↦ hopen (h ▸ hc)
  have hspan : (name ++ '(' :: (count ++ [')'])).takeWhile (· != '(') = name ∧
      (name ++ '(' :: (count ++ [')'])).dropWhile (· != '(') = '(' :: (count ++ [')']) :=
    Text.span_append hname fun c hc ↦ by cases hc; rfl
  obtain ⟨htake, hdrop⟩ := hspan
  simp only [splitCount?, htake, hdrop, List.getLast?_append, List.getLast?_singleton,
    Option.some_or, List.dropLast_concat]
  exact if_pos ⟨hne, trivial⟩

theorem splitCount?_of_not_mem {name : List Char} (hopen : '(' ∉ name) :
    splitCount? name = none := by
  have hname : ∀ c ∈ name, (c != '(') = true := fun c hc ↦
    bne_iff_ne.2 fun h ↦ hopen (h ▸ hc)
  have hdrop : name.dropWhile (· != '(') = [] := List.dropWhile_eq_nil_iff.2 hname
  simp only [splitCount?, hdrop]

theorem countOf_cast {k : Nat} (hk : 1 ≤ k) : countOf (some (k : Int)) = k := by
  have hpositive : ¬ (k : Int) < 1 := by omega
  exact if_neg hpositive

/-- A name and a text in parentheses have nothing at their ends that trimming takes away, unless the
name begins with it. -/
theorem trimChars_counted {name : List Char} (hne : name ≠ [])
    (hhead : ∀ c, name.head? = some c → Text.isBlank c = false) (count : List Char) :
    Text.trimChars (name ++ '(' :: (count ++ [')'])) = name ++ '(' :: (count ++ [')']) := by
  obtain ⟨first, rest, rfl⟩ := List.exists_cons_of_ne_nil hne
  refine Text.trimChars_of_ends hhead fun c hc ↦ ?_
  rw [← List.cons_append, ← List.append_assoc, List.getLast?_concat] at hc
  obtain rfl := Option.some.inj hc
  rfl

/-- A name with a count in decimal is read as that name and that count. -/
theorem parse_of_counted {token name : String} {k : Nat} (hne : name.toList ≠ [])
    (hopen : '(' ∉ name.toList) (hk : 1 ≤ k) (hdigits : (toString k).length ≤ maxNumeralDigits)
    (h : Text.trimChars token.toList = name.toList ++ '(' :: ((toString k).toList ++ [')'])) :
    parse token = .ok ⟨name, k⟩ := by
  simp only [parse, h, splitCount?_append hne hopen, String.ofList_toList,
    Numeral.parse_toString hdigits, bind, Except.bind, pure, Except.pure, countOf_cast hk]

theorem toList_counted (name : String) (k : Nat) :
    (name ++ "(" ++ toString k ++ ")").toList =
      name.toList ++ '(' :: ((toString k).toList ++ [')']) := by
  simp only [String.toList_append]
  simp

theorem parse_count {name : String} (hne : name ≠ "") (htrim : Text.trim name = name)
    (hopen : '(' ∉ name.toList) {k : Nat} (hk : 1 ≤ k)
    (hdigits : (toString k).length ≤ maxNumeralDigits) :
    parse (name ++ "(" ++ toString k ++ ")") = .ok ⟨name, k⟩ := by
  have hne' : name.toList ≠ [] := fun h ↦ hne (String.toList_eq_nil_iff.1 h)
  refine parse_of_counted hne' hopen hk hdigits ?_
  rw [toList_counted]
  exact trimChars_counted hne'
    (fun c hc ↦ Text.head_of_trimChars (Text.trimChars_of_trim htrim) hc) _

theorem parse_name {name : String} (htrim : Text.trim name = name) (hopen : '(' ∉ name.toList) :
    parse name = .ok ⟨name, 1⟩ := by
  simp only [parse, Text.trimChars_of_trim htrim, splitCount?_of_not_mem hopen,
    String.ofList_toList]

end FilterSpec

end BatchScaler

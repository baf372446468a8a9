import Mathlib.Data.String.Basic
import BatchScaler.Proofs.Text.Parts
import BatchScaler.Storage.Disk

namespace BatchScaler

theorem intercalate_sublist {α : Type} (mark : α) {xs ys : List (List α)} (h : xs.Sublist ys) :
    ([mark].intercalate xs).Sublist ([mark].intercalate ys) := by
  induction h with
  | slnil => exact .refl _
  | @cons xs ys part h ih =>
    rcases eq_or_ne ys [] with rfl | hys
    · rw [List.sublist_nil.1 h]
      exact List.nil_sublist _
    · rw [List.intercalate_cons_of_ne_nil hys]
      exact ih.trans (List.sublist_append_right _ _)
  | @cons_cons xs ys part h ih =>
    rcases eq_or_ne ys [] with rfl | hys
    · rw [List.sublist_nil.1 h]
    · rw [List.intercalate_cons_of_ne_nil hys]
      rcases eq_or_ne xs [] with rfl | hxs
      · rw [List.intercalate_singleton, List.append_assoc]
        exact List.sublist_append_left _ _
      · rw [List.intercalate_cons_of_ne_nil hxs]
        exact (List.Sublist.refl _).append ih

theorem pathParts_ne_nil (path : String) : pathParts path ≠ [] := by
  rw [pathParts, partsBetween_eq_splitOn]
  simp

theorem intercalate_pathParts (path : String) :
    ['/'].intercalate ((pathParts path).map String.toList) = path.toList := by
  rw [pathParts, List.map_map, partsBetween_eq_splitOn]
  simp [Function.comp_def, List.intercalate_splitOn]

theorem slash_not_mem_of_mem_pathParts {path part : String} (h : part ∈ pathParts path) :
    '/' ∉ part.toList := by
  obtain ⟨cs, hcs, rfl⟩ := List.mem_map.1 h
  rw [String.toList_ofList]
  exact mark_not_mem_of_mem_partsBetween hcs

theorem pathParts_intercalate {parts : List String} (hparts : parts ≠ [])
    (h : ∀ part ∈ parts, '/' ∉ part.toList) : pathParts ("/".intercalate parts) = parts := by
  have hsplit : (['/'].intercalate (parts.map String.toList)).splitOn '/' =
      parts.map String.toList := by
    apply List.splitOn_intercalate
    · intro cs hcs
      obtain ⟨part, hpart, rfl⟩ := List.mem_map.1 hcs
      exact h part hpart
    · simpa using hparts
  rw [pathParts, String.toList_intercalate, partsBetween_eq_splitOn]
  show (List.splitOn '/' (['/'].intercalate _)).map String.ofList = parts
  rw [hsplit, List.map_map]
  simp [Function.comp_def]

theorem pathParts_slash (path : String) : pathParts ("/" ++ path) = "" :: pathParts path := by
  simp [pathParts, Text.partsBetween]

theorem tidyParts_slash (path : String) : tidyParts ("/" ++ path) = tidyParts path := by
  rw [tidyParts, pathParts_slash]
  rfl

theorem startOf_of_slash (path : String) : startOf ("/" ++ path) = ["/"] := by
  simp [startOf]

theorem startOf_of_not_mem {path : String} (h : "" ∉ pathParts path) : startOf path = [] := by
  unfold startOf
  split
  · next hslash =>
    obtain ⟨cs, hcs⟩ : ∃ cs, path.toList = '/' :: cs := by
      cases hpath : path.toList with
      | nil => simp [hpath] at hslash
      | cons c cs => exact ⟨cs, by simp_all⟩
    exact absurd (by simp [pathParts, hcs, Text.partsBetween]) h
  · rfl

theorem root_cases (path : String) :
    rootSlashes path = "" ∧ startOf path = [] ∨
      (∃ rest, path = "/" ++ rest ∧ rootSlashes path = "/") ∨
        ∃ rest, path = "/" ++ ("/" ++ rest) ∧ rootSlashes path = "//" := by
  unfold rootSlashes startOf
  split
  · next cs hpath =>
    exact .inr (.inl ⟨.ofList ('/' :: '/' :: cs), String.toList_inj.1 (by simp [hpath]), rfl⟩)
  · next cs _ hpath =>
    exact .inr (.inr ⟨.ofList cs, String.toList_inj.1 (by simp [hpath]), rfl⟩)
  · next cs _ _ hpath =>
    exact .inr (.inl ⟨.ofList cs, String.toList_inj.1 (by simp [hpath]), rfl⟩)
  · next h₁ h₂ h₃ =>
    refine .inl ⟨rfl, if_neg ?_⟩
    cases hpath : path.toList with
    | nil => simp
    | cons c cs =>
      intro hslash
      exact h₃ cs (by simp_all)

def tidied (path : String) : String :=
  rootSlashes path ++ "/".intercalate (tidyParts path)

theorem sublist_intercalate_tidyParts (path : String) :
    ("/".intercalate (tidyParts path)).toList.Sublist path.toList := by
  have hparts := intercalate_sublist '/' (List.filter_sublist.map String.toList :
    ((tidyParts path).map String.toList).Sublist ((pathParts path).map String.toList))
  rw [intercalate_pathParts] at hparts
  rw [String.toList_intercalate]
  exact hparts

theorem sublist_tidied (path : String) : (tidied path).toList.Sublist path.toList := by
  unfold tidied
  rcases root_cases path with ⟨hroot, -⟩ | ⟨rest, hpath, hroot⟩ | ⟨rest, hpath, hroot⟩
  · rw [hroot]
    simpa using sublist_intercalate_tidyParts path
  · rw [hroot, hpath, tidyParts_slash]
    simpa using sublist_intercalate_tidyParts rest
  · rw [hroot, hpath, tidyParts_slash, tidyParts_slash]
    simpa using sublist_intercalate_tidyParts rest

theorem slash_not_mem_of_mem_tidyParts {path part : String} (h : part ∈ tidyParts path) :
    '/' ∉ part.toList :=
  slash_not_mem_of_mem_pathParts (List.mem_of_mem_filter h)

theorem startOf_tidied {path : String} (h : tidyParts path ≠ []) :
    startOf (tidied path) = startOf path := by
  unfold tidied
  rcases root_cases path with ⟨hroot, hstart⟩ | ⟨rest, hpath, hroot⟩ | ⟨rest, hpath, hroot⟩
  · rw [hroot, hstart, String.empty_append]
    apply startOf_of_not_mem
    rw [pathParts_intercalate h fun part ↦ slash_not_mem_of_mem_tidyParts]
    intro hempty
    cases (List.mem_filter.1 hempty).2
  · rw [hroot, startOf_of_slash, hpath, startOf_of_slash]
  · have hslashes : ("//" : String) = "/" ++ "/" := rfl
    rw [hroot, hslashes, String.append_assoc, startOf_of_slash, hpath, startOf_of_slash]

theorem pathParts_tidied {path : String} (h : tidyParts path ≠ []) :
    ∃ n, pathParts (tidied path) = List.replicate n "" ++ tidyParts path := by
  have hparts : pathParts ("/".intercalate (tidyParts path)) = tidyParts path :=
    pathParts_intercalate h fun part ↦ slash_not_mem_of_mem_tidyParts
  unfold tidied
  rcases root_cases path with ⟨hroot, -⟩ | ⟨rest, hpath, hroot⟩ | ⟨rest, hpath, hroot⟩
  · exact ⟨0, by rw [hroot, String.empty_append, hparts]; rfl⟩
  · exact ⟨1, by rw [hroot, pathParts_slash, hparts]; rfl⟩
  · have hslashes : ("//" : String) = "/" ++ "/" := rfl
    exact ⟨2, by rw [hroot, hslashes, String.append_assoc, pathParts_slash, pathParts_slash, hparts]; rfl⟩

theorem tidied_ne_empty {path : String} (h : tidyParts path ≠ []) : tidied path ≠ "" := by
  intro hempty
  obtain ⟨part, hpart⟩ := List.exists_mem_of_ne_nil _ h
  obtain ⟨n, hparts⟩ := pathParts_tidied h
  have hmem : part ∈ pathParts (tidied path) := hparts ▸ List.mem_append_right _ hpart
  rw [hempty] at hmem
  obtain rfl : part = "" := by simpa [pathParts, Text.partsBetween] using hmem
  cases (List.mem_filter.1 hpart).2

theorem tidyPath_eq_tidied {path : String} (h : tidyParts path ≠ []) :
    tidyPath path = tidied path :=
  if_neg (tidied_ne_empty h)

def Place.next? (place : Place) (part : String) : Option Place :=
  if isIdlePart part then some place
  else if part = ".." then some place.above
  else if maxNameBytes < part.utf8ByteSize then none
  else some (place ++ [part])

namespace Disk

variable {d : Disk} {place place' : Place} {part : String} {parts : List String}

theorem walk_cons_eq_ok_iff :
    d.walk place (part :: parts) = .ok place' ↔
      d.isDirectory place = true ∧
        ∃ next, place.next? part = some next ∧ d.walk next parts = .ok place' := by
  rw [walk]
  cases d.isDirectory place with
  | false => simp
  | true =>
    unfold Place.next?
    by_cases hidle : isIdlePart part = true
    · simp [hidle]
    · by_cases hup : part = ".."
      · subst hup
        simp [hidle]
      · by_cases hlong : maxNameBytes < part.utf8ByteSize
        · simp [hidle, hup, hlong]
        · simp [hidle, hup, hlong]

theorem walk_cons_of_idle (hpart : isIdlePart part = true) (hplace : d.isDirectory place = true) :
    d.walk place (part :: parts) = d.walk place parts := by
  simp [walk, hpart, hplace]

theorem walk_tidied (h : d.walk place parts = .ok place') :
    d.walk place (parts.filter (!isIdlePart ·)) = .ok place' := by
  induction parts generalizing place with
  | nil => exact h
  | cons part parts ih =>
    obtain ⟨hplace, next, hnext, hrest⟩ := walk_cons_eq_ok_iff.1 h
    cases hidle : isIdlePart part with
    | true =>
      rw [walk_cons_of_idle hidle hplace] at h
      simpa [hidle] using ih h
    | false =>
      rw [List.filter_cons_of_pos (by simp [hidle])]
      exact walk_cons_eq_ok_iff.2 ⟨hplace, next, hnext, ih hrest⟩

theorem walk_replicate_idle {n : ℕ} (hplace : d.isDirectory place = true) :
    d.walk place (List.replicate n "" ++ parts) = d.walk place parts := by
  induction n with
  | zero => rfl
  | succ n ih =>
    rw [List.replicate_succ, List.cons_append, walk_cons_of_idle rfl hplace, ih]

theorem locate_eq_ok_iff {path : String} :
    d.locate path = .ok place ↔ path ≠ "" ∧ '\x00' ∉ path.toList ∧
      path.utf8ByteSize ≤ maxPathBytes ∧ d.walk (startOf path) (pathParts path) = .ok place := by
  unfold locate
  constructor
  · intro h
    split at h
    · cases h
    · split at h
      · cases h
      · next hpath hshort =>
        simp only [List.contains_eq_mem, decide_eq_true_eq, not_or] at hpath
        exact ⟨hpath.1, hpath.2, Nat.not_lt.1 hshort, h⟩
  · rintro ⟨hpath, hnul, hshort, hwalk⟩
    rw [if_neg (by simp [hpath, hnul]), if_neg (Nat.not_lt.2 hshort)]
    exact hwalk

/-- A tidied path leads where the path itself leads, if there is something other than a directory. -/
theorem locate_tidyPath {path : String} (h : d.locate path = .ok place)
    (hplace : d.isDirectory place = false) : d.locate (tidyPath path) = .ok place := by
  obtain ⟨hpath, hnul, hshort, hwalk⟩ := locate_eq_ok_iff.1 h
  have hstart : d.isDirectory (startOf path) = true := by
    obtain ⟨part, parts, hparts⟩ := List.exists_cons_of_ne_nil (pathParts_ne_nil path)
    exact (walk_cons_eq_ok_iff.1 (hparts ▸ hwalk)).1
  have htidied : d.walk (startOf path) (tidyParts path) = .ok place := walk_tidied hwalk
  have hparts : tidyParts path ≠ [] := by
    intro hnil
    rw [hnil] at htidied
    cases htidied
    rw [hstart] at hplace
    cases hplace
  have hsub := sublist_tidied path
  obtain ⟨n, hn⟩ := pathParts_tidied hparts
  rw [tidyPath_eq_tidied hparts]
  refine locate_eq_ok_iff.2 ⟨tidied_ne_empty hparts, fun hmem ↦ hnul (hsub.subset hmem), ?_, ?_⟩
  · rw [← String.utf8Len_toList] at hshort ⊢
    exact Nat.le_trans (String.utf8Len_le_of_sublist hsub) hshort
  · rw [startOf_tidied hparts, hn, walk_replicate_idle hstart]
    exact htidied

end Disk

end BatchScaler

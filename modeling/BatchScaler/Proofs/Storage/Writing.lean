import BatchScaler.Proofs.Storage.Paths

namespace BatchScaler.Disk

variable {d : Disk} {place place' start : Place} {e : Entry}

theorem lookup_filter_ne {entries : List (Place × Entry)} :
    (entries.filter (·.1 != place)).lookup place' =
      if place' = place then none else entries.lookup place' := by
  induction entries with
  | nil => simp
  | cons entry entries ih =>
    obtain ⟨other, e⟩ := entry
    by_cases hother : other = place
    · subst hother
      by_cases hplace : place' = other
      · subst hplace
        simpa using ih
      · have hbeq : (place' == other) = false := beq_false_of_ne hplace
        simp [List.lookup_cons, hplace, hbeq, ih]
    · by_cases hplace : place' = other
      · simp [hplace, hother]
      · have hbeq : (place' == other) = false := beq_false_of_ne hplace
        simp [List.lookup_cons, hbeq, hother, ih]

theorem entry?_put :
    Disk.entry? (d.put place e) place' = if place' = place then some e else d.entry? place' := by
  unfold entry? put
  simp only [List.lookup_append, lookup_filter_ne]
  by_cases h : place' = place
  · simp [h]
  · have hbeq : (place' == place) = false := beq_false_of_ne h
    simp [List.lookup_cons, h, hbeq]

theorem isDirectory_put (h : d.isDirectory place' = true) (hplace : d.isDirectory place = false) :
    (d.put place e).isDirectory place' = true := by
  have hne : place' ≠ place := by
    rintro rfl
    rw [h] at hplace
    cases hplace
  unfold isDirectory at h ⊢
  rw [entry?_put, if_neg hne]
  split at h
  · rfl
  · cases h
  · next hnone =>
    rcases Bool.or_eq_true_iff.1 h with hup | hany
    · simp [hup]
    · obtain ⟨entry, hentry, hprefix⟩ := List.any_eq_true.1 hany
      refine Bool.or_eq_true_iff.2 (.inr (List.any_eq_true.2 ?_))
      by_cases hentry' : entry.1 = place
      · exact ⟨(place, e), by simp [put], by simpa [hentry'] using hprefix⟩
      · exact ⟨entry, by simp [put, hentry, hentry'], hprefix⟩

theorem walk_put {parts : List String} (h : d.walk start parts = .ok place')
    (hplace : d.isDirectory place = false) : (d.put place e).walk start parts = .ok place' := by
  induction parts generalizing start with
  | nil => exact h
  | cons part parts ih =>
    obtain ⟨hstart, next, hnext, hrest⟩ := walk_cons_eq_ok_iff.1 h
    exact walk_cons_eq_ok_iff.2 ⟨isDirectory_put hstart hplace, next, hnext, ih hrest⟩

theorem locate_put {path : String} (h : d.locate path = .ok place')
    (hplace : d.isDirectory place = false) : (d.put place e).locate path = .ok place' := by
  obtain ⟨hpath, hnul, hshort, hwalk⟩ := locate_eq_ok_iff.1 h
  exact locate_eq_ok_iff.2 ⟨hpath, hnul, hshort, walk_put hwalk hplace⟩

theorem find?_put {path : String} (h : d.locate path = .ok place)
    (hplace : d.isDirectory place = false) (he : e ≠ .directory) :
    (d.put place e).find? path = some e := by
  have hdirectory : (d.put place e).isDirectory place = false := by
    unfold isDirectory
    rw [entry?_put, if_pos rfl]
    cases e with
    | directory => exact absurd rfl he
    | _ => rfl
  unfold find?
  rw [locate_put h hplace]
  simp only [hdirectory, entry?_put, if_true, Bool.false_eq_true, if_false]

theorem isTooLong_put {path : String} (h : d.locate path = .ok place)
    (hplace : d.isDirectory place = false) : (d.put place e).isTooLong path = false := by
  unfold isTooLong
  rw [locate_put h hplace]

def Stores (d : Disk) (C : StoredPicture → Prop) : Prop :=
  ∀ place format content, d.entry? place = some (.picture format content) → C content

variable {C : StoredPicture → Prop} {format : FileFormat} {content : StoredPicture}

theorem Stores.of_find? (h : d.Stores C) {path : String}
    (hfind : d.find? path = some (.picture format content)) : C content := by
  unfold find? at hfind
  split at hfind
  · cases hfind
  · split at hfind
    · cases hfind
    · exact h _ _ _ hfind

theorem Stores.empty : Stores {} C := by
  intro place format content hentry
  have hplain : ∀ entry ∈ systemEntries, ¬ entry.2.isFile := by
    decide +kernel
  obtain ⟨before, after, hsplit, -⟩ := List.lookup_eq_some_iff.1 hentry
  have hmem : (place, Entry.picture format content) ∈ systemEntries := by
    have happend : systemEntries = before ++ (place, .picture format content) :: after := hsplit
    rw [happend]
    exact List.mem_append_right before List.mem_cons_self
  exact absurd rfl (hplain _ hmem)

theorem Stores.put (h : d.Stores C) (hcontent : C content) :
    (d.put place (.picture format content)).Stores C := by
  intro place' format' content' hentry
  rw [entry?_put] at hentry
  split at hentry
  · cases hentry
    exact hcontent
  · exact h _ _ _ hentry

end BatchScaler.Disk

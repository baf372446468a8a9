import Mathlib.Data.List.TakeWhile
import BatchScaler.Text.Parts

namespace BatchScaler

theorem partsBetween_eq_splitOn (mark : Char) (cs : List Char) :
    Text.partsBetween mark cs = cs.splitOn mark := by
  induction cs with
  | nil => simp [Text.partsBetween]
  | cons c cs ih =>
    rw [Text.partsBetween, ih, List.splitOn_cons_eq_if_modifyHead]
    by_cases hc : c = mark
    · simp [hc]
    · rcases h : cs.splitOn mark with _ | ⟨part, parts⟩
      · exact absurd h (List.splitOn_ne_nil mark cs)
      · simp [hc]

theorem mark_not_mem_of_mem_partsBetween {mark : Char} {cs part : List Char}
    (h : part ∈ Text.partsBetween mark cs) : mark ∉ part := by
  induction cs generalizing part with
  | nil => simp_all [Text.partsBetween]
  | cons c cs ih =>
    rw [Text.partsBetween] at h
    split at h
    · rcases List.mem_cons.1 h with rfl | h
      · exact List.not_mem_nil
      · exact ih h
    · next hc =>
      rcases hparts : Text.partsBetween mark cs with _ | ⟨first, parts⟩
      · rw [hparts] at h
        obtain rfl := List.mem_singleton.1 h
        exact fun hmark ↦ hc (List.mem_singleton.1 hmark).symm
      · rw [hparts] at h
        rcases List.mem_cons.1 h with rfl | h
        · have hfirst : mark ∉ first := ih (hparts ▸ List.mem_cons_self)
          intro hmark
          rcases List.mem_cons.1 hmark with rfl | hmark
          · exact hc rfl
          · exact hfirst hmark
        · exact ih (hparts ▸ List.mem_cons_of_mem first h)

namespace Text

variable {mark : Char} {cs : List Char}

theorem afterLast_of_not_mem (h : mark ∉ cs) : afterLast mark cs = cs := by
  unfold afterLast
  rw [List.takeWhile_eq_self_iff.2, List.reverse_reverse]
  intro c hc
  rw [bne_iff_ne]
  rintro rfl
  exact h (List.mem_reverse.1 hc)

theorem afterLast_append_cons (mark : Char) (front back : List Char) :
    afterLast mark (front ++ mark :: back) = afterLast mark back := by
  unfold afterLast
  rw [List.reverse_append, List.reverse_cons, List.append_assoc, List.takeWhile_append]
  split
  · next h =>
    rw [(List.takeWhile_prefix _).eq_of_length h]
    simp
  · rfl

theorem afterLast_suffix (mark : Char) (cs : List Char) : afterLast mark cs <:+ cs := by
  rw [← List.reverse_prefix, afterLast, List.reverse_reverse]
  exact List.takeWhile_prefix _

theorem eq_append_afterLast (h : mark ∈ cs) : ∃ front, cs = front ++ mark :: afterLast mark cs := by
  obtain ⟨back, front, hsplit, hback⟩ := List.eq_append_cons_of_mem (List.mem_reverse.2 h)
  have hcs : cs = front.reverse ++ mark :: back.reverse := by
    rw [← List.reverse_reverse cs, hsplit]
    simp
  refine ⟨front.reverse, ?_⟩
  rw [hcs, afterLast_append_cons, afterLast_of_not_mem (mt List.mem_reverse.1 hback)]

/-- What follows belongs to the last part, if it holds no mark. -/
theorem afterLast_append (h : mark ∉ cs) (front : List Char) :
    afterLast mark (front ++ cs) = afterLast mark front ++ cs := by
  have hcs : ∀ c ∈ cs.reverse, (c != mark) = true := fun c hc ↦
    bne_iff_ne.2 fun heq ↦ h (heq ▸ List.mem_reverse.1 hc)
  unfold afterLast
  rw [List.reverse_append, List.takeWhile_append_of_pos hcs, List.reverse_append,
    List.reverse_reverse]

/-- The part after the last mark is the last one of the parts between the marks. -/
theorem getLast?_splitOn (mark : Char) (cs : List Char) :
    (cs.splitOn mark).getLast? = some (afterLast mark cs) := by
  by_cases h : mark ∈ cs
  · obtain ⟨front, back, rfl⟩ := List.append_of_mem h
    rw [List.splitOn_append_cons_self, afterLast_append_cons, List.getLast?_append,
      getLast?_splitOn mark back, Option.some_or]
  · rw [List.splitOn_eq_singleton h, afterLast_of_not_mem h, List.getLast?_singleton]
termination_by cs.length
decreasing_by
  subst cs
  rw [List.length_append, List.length_cons]
  omega

end Text

end BatchScaler

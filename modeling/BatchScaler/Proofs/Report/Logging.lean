import Mathlib.Data.List.Dedup
import Mathlib.Data.List.Induction
import BatchScaler.Proofs.Text.Parts
import BatchScaler.Report.Logger

namespace BatchScaler

/-- A request for a logger: for the logger itself, with a level, or for the logger of a category,
which comes with the usual level. -/
inductive LoggerRequest
  | setup (level : ℤ)
  | get (category : String)
  deriving DecidableEq, Repr

def LoggerRequest.level : LoggerRequest → ℤ
  | setup level => level
  | get _ => Severity.info.level

/-- A request, and what it finds: the options of the environment and the error stream. -/
structure LogCall where
  request : LoggerRequest
  options : LogOptions := {}
  stream : String
  deriving DecidableEq, Repr

def lastUnder (stream : String) (calls : List LogCall) : Option LogCall :=
  calls.reverse.find? (·.stream = stream)

namespace Severity

def NamedBy (s : Severity) (text : String) : Prop :=
  Text.lowerAscii s.label = Text.lowerAscii (Text.trim text)

instance (s : Severity) (text : String) : Decidable (s.NamedBy text) :=
  inferInstanceAs (Decidable (_ = _))

theorem mem_all (s : Severity) : s ∈ all := by
  cases s <;> decide

theorem level_pos (s : Severity) : 0 < s.level := by
  cases s <;> decide

theorem NamedBy.unique {s t : Severity} {text : String} (hs : s.NamedBy text)
    (ht : t.NamedBy text) : s = t := by
  have hlabel : Text.lowerAscii s.label = Text.lowerAscii t.label := hs.trans ht.symm
  revert hlabel
  cases s <;> cases t <;> decide

end Severity

namespace LogOptions

variable {o : LogOptions} {asked level : ℤ}

/-- The level that counts where `asked` is asked for: the one that the environment names, if it
names one. -/
inductive InForce (o : LogOptions) (asked : ℤ) : ℤ → Prop
  | named {s : Severity} (h : s.NamedBy (o.level.getD "")) : InForce o asked s.level
  | asked (h : ∀ s : Severity, ¬s.NamedBy (o.level.getD "")) : InForce o asked asked

def Allows (o : LogOptions) (category : String) : Prop :=
  Text.trim (o.categories.getD "") = "" ∨
    ∃ part ∈ (o.categories.getD "").toList.splitOn ',', Text.trimChars part ≠ [] ∧
      ((categoryName category).toList.splitOn '.').getLast? = some (Text.trimChars part)

instance (o : LogOptions) (category : String) : Decidable (o.Allows category) :=
  inferInstanceAs (Decidable (_ ∨ ∃ part ∈ _, _ ∧ _))

theorem severity?_eq_some {s : Severity} (h : o.severity? = some s) :
    s.NamedBy (o.level.getD "") := by
  unfold severity? at h
  have hfound := List.find?_some h
  rw [beq_iff_eq] at hfound
  exact hfound

theorem not_namedBy_of_severity? (h : o.severity? = none) (s : Severity) :
    ¬s.NamedBy (o.level.getD "") := by
  intro hs
  unfold severity? at h
  refine List.find?_eq_none.1 h s s.mem_all ?_
  rw [beq_iff_eq]
  exact hs

theorem inForce_iff :
    o.InForce asked level ↔ (o.severity?.map Severity.level).getD asked = level := by
  cases h : o.severity? with
  | some s =>
    have hs := severity?_eq_some h
    constructor
    · rintro (ht | hnone)
      · rw [hs.unique ht]
        rfl
      · exact absurd hs (hnone s)
    · rintro rfl
      exact .named hs
  | none =>
    have hnone := not_namedBy_of_severity? h
    constructor
    · rintro (ht | -)
      · exact absurd ht (hnone _)
      · rfl
    · rintro rfl
      exact .asked hnone

theorem InForce.pos (hasked : 0 < asked) (h : o.InForce asked level) : 0 < level := by
  cases h with
  | named => exact Severity.level_pos _
  | asked => exact hasked

theorem admits_iff {stream category : String} :
    (⟨stream, o.allowed⟩ : LogHandler).admits category ↔ o.Allows category := by
  have hlast : ((categoryName category).toList.splitOn '.').getLast? =
      some (lastComponent (categoryName category)).toList := by
    rw [Text.getLast?_splitOn, lastComponent, String.toList_ofList]
  have hspelled (part : List Char) : String.ofList part = lastComponent (categoryName category) ↔
      (lastComponent (categoryName category)).toList = part := by
    constructor
    · intro h
      rw [← h, String.toList_ofList]
    · intro h
      rw [← h, String.ofList_toList]
  unfold LogHandler.admits allowed Allows
  dsimp only
  rw [hlast, partsBetween_eq_splitOn]
  by_cases hblank : Text.trim (o.categories.getD "") = ""
  · simp [hblank]
  · simp [hblank, hspelled]

end LogOptions

theorem lastUnder_append_singleton (stream : String) (calls : List LogCall) (c : LogCall) :
    lastUnder stream (calls ++ [c]) =
      if c.stream = stream then some c else lastUnder stream calls := by
  unfold lastUnder
  rw [List.reverse_append, List.reverse_singleton, List.singleton_append, List.find?_cons]
  by_cases h : c.stream = stream <;> simp [h]

namespace Logger

def answer (l : Logger) (c : LogCall) : Logger :=
  l.configure c.options c.stream c.request.level

def after (calls : List LogCall) : Logger :=
  calls.foldl answer {}

theorem after_append_singleton (calls : List LogCall) (c : LogCall) :
    after (calls ++ [c]) = (after calls).answer c :=
  List.foldl_append

section Step

variable {l : Logger} {c : LogCall} {h : LogHandler}

theorem mem_handlers_answer :
    h ∈ (l.answer c).handlers ↔
      h = ⟨c.stream, c.options.allowed⟩ ∨ h ∈ l.handlers ∧ h.stream ≠ c.stream := by
  unfold answer configure
  dsimp only
  split
  · next hany =>
    obtain ⟨g, hg, hstream⟩ := List.any_eq_true.1 hany
    rw [beq_iff_eq] at hstream
    rw [List.mem_map]
    constructor
    · rintro ⟨g', hg', rfl⟩
      split
      · exact .inl rfl
      · next hother => exact .inr ⟨hg', hother⟩
    · rintro (rfl | ⟨hh, hother⟩)
      · exact ⟨g, hg, if_pos hstream⟩
      · exact ⟨h, hh, if_neg hother⟩
  · next hnone =>
    have hother : ∀ g ∈ l.handlers, g.stream ≠ c.stream := by
      simpa using hnone
    rw [List.mem_append, List.mem_singleton, or_comm]
    exact or_congr_right ⟨fun hh ↦ ⟨hh, hother h hh⟩, And.left⟩

theorem streams_answer :
    (l.answer c).handlers.map (·.stream) =
      if c.stream ∈ l.handlers.map (·.stream) then l.handlers.map (·.stream)
      else l.handlers.map (·.stream) ++ [c.stream] := by
  have hany : l.handlers.any (·.stream == c.stream) ↔ c.stream ∈ l.handlers.map (·.stream) := by
    simp only [List.any_eq_true, beq_iff_eq, List.mem_map]
  unfold answer configure
  dsimp only
  by_cases hmem : c.stream ∈ l.handlers.map (·.stream)
  · rw [if_pos (hany.2 hmem), if_pos hmem, List.map_map]
    refine List.map_congr_left fun g _ ↦ ?_
    dsimp only [Function.comp_apply]
    split
    · next hstream => exact hstream.symm
    · rfl
  · rw [if_neg (mt hany.1 hmem), if_neg hmem, List.map_append]
    rfl

theorem passes_answer {level : ℤ} (hforce : c.options.InForce c.request.level level)
    (hlevel : 0 < level) (n : ℤ) : (l.answer c).passes n ↔ level ≤ n := by
  unfold passes threshold answer configure
  dsimp only
  rw [LogOptions.inForce_iff.1 hforce, if_neg (Int.ne_of_gt hlevel), Bool.and_eq_true,
    decide_eq_true_iff, decide_eq_true_iff]
  exact and_iff_right_of_imp (Int.lt_of_lt_of_le hlevel)

end Step

section History

variable {calls : List LogCall} {h : LogHandler} {stream : String} {r : LogRecord}

theorem mem_streams {l : Logger} :
    stream ∈ l.streams r ↔
      l.passes r.level ∧ ∃ h ∈ l.handlers, h.stream = stream ∧ h.admits r.category := by
  unfold streams
  split
  · next hpasses =>
    simp only [hpasses, true_and, List.mem_map, List.mem_filter]
    exact exists_congr fun h ↦ and_assoc.trans (and_congr_right fun _ ↦ and_comm)
  · next hstopped => simp [hstopped]

theorem nodup_after (calls : List LogCall) : ((after calls).handlers.map (·.stream)).Nodup := by
  induction calls using List.reverseRecOn with
  | nil => exact List.nodup_nil
  | append_singleton calls c ih =>
    rw [after_append_singleton, streams_answer]
    split
    · exact ih
    · next hnew =>
      rw [← List.concat_eq_append]
      exact ih.concat hnew

theorem mem_streams_of_handlers_after :
    stream ∈ (after calls).handlers.map (·.stream) ↔ stream ∈ calls.map (·.stream) := by
  induction calls using List.reverseRecOn with
  | nil => exact Iff.rfl
  | append_singleton calls c ih =>
    rw [after_append_singleton, streams_answer, List.map_append, List.mem_append, ← ih,
      List.map_singleton, List.mem_singleton]
    split
    · next hknown => exact ⟨.inl, fun h ↦ h.elim id fun hstream ↦ hstream ▸ hknown⟩
    · rw [List.mem_append, List.mem_singleton]

/-- There is one handler only, that of the current stream, as long as no other stream was replaced
by it. -/
theorem one_handler_iff {earlier : List LogCall} {last : LogCall} :
    (after (earlier ++ [last])).handlers.map (·.stream) = [last.stream] ↔
      ∀ c ∈ earlier, c.stream = last.stream := by
  have hmem : ∀ {stream}, stream ∈ (after (earlier ++ [last])).handlers.map (·.stream) ↔
      (∃ c ∈ earlier, c.stream = stream) ∨ stream = last.stream := by
    intro stream
    rw [mem_streams_of_handlers_after, List.map_append, List.map_singleton, List.mem_append,
      List.mem_singleton, List.mem_map]
  rw [← not_iff_not, ← Ne, (nodup_after _).ne_singleton_iff]
  constructor
  · rintro (hnone | ⟨stream, hstream, hother⟩) hsame
    · exact List.ne_nil_of_mem (hmem.2 (.inr rfl)) hnone
    · obtain ⟨c, hc, rfl⟩ | hlast := hmem.1 hstream
      · exact hother (hsame c hc)
      · exact hother hlast
  · intro hdiffer
    push Not at hdiffer
    obtain ⟨c, hc, hother⟩ := hdiffer
    exact .inr ⟨c.stream, hmem.2 (.inl ⟨c, hc, rfl⟩), hother⟩

theorem mem_handlers_after :
    h ∈ (after calls).handlers ↔
      ∃ c, lastUnder h.stream calls = some c ∧ h.categories = c.options.allowed := by
  induction calls using List.reverseRecOn with
  | nil => simp [after, lastUnder]
  | append_singleton calls c ih =>
    -- The last call decides about the handler of its stream, those before it about all others.
    rw [after_append_singleton, mem_handlers_answer, ih, lastUnder_append_singleton]
    by_cases hstream : c.stream = h.stream
    · rw [if_pos hstream]
      constructor
      · rintro (rfl | ⟨-, hother⟩)
        · exact ⟨c, rfl, rfl⟩
        · exact absurd hstream.symm hother
      · rintro ⟨_, ⟨⟩, hcategories⟩
        rw [← hcategories, hstream]
        exact .inl rfl
    · rw [if_neg hstream]
      constructor
      · rintro (rfl | ⟨hlast, -⟩)
        · exact absurd rfl hstream
        · exact hlast
      · intro hlast
        exact .inr ⟨hlast, Ne.symm hstream⟩

theorem mem_streams_after :
    stream ∈ (after calls).streams r ↔
      (after calls).passes r.level ∧
        ∃ c, lastUnder stream calls = some c ∧ c.options.Allows r.category := by
  rw [mem_streams]
  refine and_congr_right fun _ ↦ ?_
  constructor
  · rintro ⟨⟨stream, categories⟩, hh, rfl, hadmits⟩
    obtain ⟨c, hlast, rfl⟩ := mem_handlers_after.1 hh
    exact ⟨c, hlast, LogOptions.admits_iff.1 hadmits⟩
  · rintro ⟨c, hlast, hallows⟩
    exact ⟨⟨stream, c.options.allowed⟩, mem_handlers_after.2 ⟨c, hlast, rfl⟩, rfl,
      LogOptions.admits_iff.2 hallows⟩

theorem nodup_streams_after (calls : List LogCall) (r : LogRecord) :
    ((after calls).streams r).Nodup := by
  unfold streams
  split
  · exact (nodup_after calls).sublist (List.filter_sublist.map _)
  · exact List.nodup_nil

theorem written_after (calls : List LogCall) (clock stream : String) (r : LogRecord) :
    (after calls).written clock stream r =
      if stream ∈ (after calls).streams r then r.line clock else "" := by
  unfold written
  rw [List.filter_beq, (nodup_streams_after calls r).count]
  split <;> simp

end History

/-- A handler stays when its stream is no longer the error stream. There is one for every stream
that ever was it, so there is only one if none was replaced; a record is written once at most to
each stream, but to all whose last request allowed its category. -/
theorem handlers_of_history (earlier : List LogCall) (last : LogCall) :
    let calls := earlier ++ [last]
    let l := after calls
    (l.handlers.map (·.stream)).Perm (calls.map (·.stream)).dedup ∧
    ((∃ h, l.handlers = [h] ∧ h.stream = last.stream) ↔ ∀ c ∈ earlier, c.stream = last.stream) ∧
    ∀ r, (l.streams r).Nodup ∧ ∀ stream, stream ∈ l.streams r ↔
      l.passes r.level ∧ ∃ c, lastUnder stream calls = some c ∧ c.options.Allows r.category := by
  intro calls l
  refine ⟨?_, ?_, fun r ↦ ⟨nodup_streams_after calls r, fun stream ↦ mem_streams_after⟩⟩
  · refine (List.perm_ext_iff_of_nodup (nodup_after calls) (List.nodup_dedup _)).2 fun stream ↦ ?_
    rw [List.mem_dedup]
    exact mem_streams_of_handlers_after
  · rw [← one_handler_iff, List.map_eq_singleton_iff]

/-- The stream of the first request still gets what is written after the second one found
another. -/
theorem replaced_stream_is_written :
    let l := after [⟨.setup Severity.info.level, {}, "first"⟩, ⟨.get "codec", {}, "second"⟩]
    l.handlers = [⟨"first", none⟩, ⟨"second", none⟩] ∧
      l.streams ⟨"codec", Severity.info.level, "image saved"⟩ = ["first", "second"] := by
  decide +kernel

/-- What the current stream gets depends on the last request alone: each record once that is at the
level in force and whose category is allowed, and nothing else. -/
theorem written_by_last_request (earlier : List LogCall) (last : LogCall)
    (hlevel : 0 < last.request.level) :
    (∃ level, last.options.InForce last.request.level level) ∧
    ∀ level, last.options.InForce last.request.level level → ∀ (clock : String) (r : LogRecord),
      let l := after (earlier ++ [last])
      let written := level ≤ r.level ∧ last.options.Allows r.category
      (l.streams r).count last.stream = (if written then 1 else 0) ∧
        l.written clock last.stream r = if written then r.line clock else "" := by
  refine ⟨⟨_, LogOptions.inForce_iff.2 rfl⟩, fun level hforce clock r ↦ ?_⟩
  intro l written
  have hmem : last.stream ∈ l.streams r ↔ written := by
    rw [mem_streams_after, after_append_singleton, passes_answer hforce (hforce.pos hlevel),
      lastUnder_append_singleton, if_pos rfl]
    exact and_congr_right fun _ ↦ by simp
  refine ⟨?_, ?_⟩
  · rw [(nodup_streams_after _ r).count]
    exact if_congr hmem rfl rfl
  · rw [written_after]
    exact if_congr hmem rfl rfl

/-- Stream "a" is back after it was replaced; its old level and categories are gone. -/
theorem written_by_last_request_returned :
    let earlier : List LogCall :=
      [⟨.setup Severity.critical.level, ⟨some "error", some "codec"⟩, "a"⟩,
        ⟨.get "main", {}, "b"⟩]
    let last : LogCall := ⟨.setup 30, ⟨some " Debug ", some "codec, , main"⟩, "a"⟩
    let r : LogRecord := ⟨"cli.main", Severity.debug.level, "run finished"⟩
    0 < last.request.level ∧ last.options.InForce last.request.level Severity.debug.level ∧
      last.options.Allows r.category ∧
      ((after (earlier ++ [last])).streams r).count "a" = 1 := by
  intro earlier last r
  have hlevel : 0 < last.request.level := by decide
  have hforce : last.options.InForce last.request.level Severity.debug.level :=
    .named (show Severity.debug.NamedBy " Debug " by decide +kernel)
  have hallows : last.options.Allows r.category := by decide +kernel
  have hwritten := (written_by_last_request earlier last hlevel).2 _ hforce "" r
  refine ⟨hlevel, hforce, hallows, hwritten.1.trans (if_pos ⟨?_, hallows⟩)⟩
  decide

end Logger

end BatchScaler

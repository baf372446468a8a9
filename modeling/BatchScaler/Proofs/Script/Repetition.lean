import BatchScaler.Proofs.Script.Composition
import BatchScaler.Proofs.Script.Operands

namespace BatchScaler

open BatchScaler.Action

variable {σ ι κ : Type}

namespace Session

variable {s : Session σ ι κ}

/-- What is seen of one resize after its line: the name is refused, or the filter is applied once. -/
inductive IsRound (s : Session σ ι κ) (name : String) (requested : Size) : List (Event ι) → Prop
  | unknown (hr : s.registry.resolve name = none) :
      IsRound s name requested [.notice (.unknownFilter name)]
  | failed {f : NamedFilter κ} (hr : s.registry.resolve name = some f) (image : ι) :
      IsRound s name requested
        [.applyFilter image f.name requested resizeEdge resizeEdge, .timed durationKey]
  | applied {f : NamedFilter κ} (hr : s.registry.resolve name = some f) (image : ι) :
      IsRound s name requested
        [.applyFilter image f.name requested resizeEdge resizeEdge, .timed durationKey,
          .counted appliedKey]

def withLine (line : String) : List (List (Event ι)) → List (Event ι)
  | [] => []
  | round :: rounds => .output line :: (round :: rounds).flatten

def withLines (line : String) (rounds : List (List (Event ι))) : List (Event ι) :=
  rounds.flatMap (.output line :: ·)

theorem isRound_applyOnce {name : String} {f : NamedFilter κ}
    (hr : s.registry.resolve name = some f) (requested : Size) (image : ι) (w : σ) :
    s.IsRound name requested ((s.applyOnce f requested image).visible.run w).events := by
  rw [run_applyOnce]
  rcases ((s.service.applyFilter image f requested resizeEdge resizeEdge).run w).result with
    fault | image'
  · exact .failed hr image
  · exact .applied hr image

section

variable {size filter : String} {dimensions : Dimensions} {spec : FilterSpec}

theorem run_enact_resize_none (hd : Dimensions.parse size = .ok (.ok dimensions))
    (hf : FilterSpec.parse filter = .ok spec) (w : σ) :
    (s.enact (some (.resize size filter)) none).visible.run w =
      ⟨[.notice .nothingToResize], .ok (.halt .failed), w⟩ := by
  have henact : s.enact (some (.resize size filter)) none = refuse .nothingToResize := by
    simp only [enact, perform, resize, hd, hf]
    rfl
  rw [henact]
  simp only [refuse, visible_bind, visible_notice, visible_pure]
  rfl

theorem enact_resize (hd : Dimensions.parse size = .ok (.ok dimensions))
    (hf : FilterSpec.parse filter = .ok spec) (image : ι) :
    s.enact (some (.resize size filter)) (some image) = s.resizeImage dimensions spec image := by
  simp only [enact, perform, resize, hd, hf]
  rfl

theorem run_enact_resize_unknown (hd : Dimensions.parse size = .ok (.ok dimensions))
    (hf : FilterSpec.parse filter = .ok spec) (hr : s.registry.resolve spec.name = none)
    (image : ι) (w : σ) :
    (s.enact (some (.resize size filter)) (some image)).visible.run w =
      ⟨[.output (resizeLine dimensions spec), .notice (.unknownFilter spec.name)],
        .ok (.halt .failed), w⟩ := by
  rw [enact_resize hd hf]
  simp only [resizeImage, hr, refuse, visible_bind, visible_output, visible_notice, visible_pure]
  rfl

/-- After its line a resize is as many applications as it says, and what follows sees the last of
the images. -/
theorem run_executeAll_resize (hd : Dimensions.parse size = .ok (.ok dimensions))
    (hf : FilterSpec.parse filter = .ok spec) {f : NamedFilter κ}
    (hr : s.registry.resolve spec.name = some f) {st : Statement}
    (hst : st.request = some (.resize size filter)) (rest : List Statement) (image : ι) (w : σ) :
    (s.executeAll (some image) (st :: rest)).visible.run w =
      (((s.applyTimes f ⟨dimensions.width, dimensions.height⟩ spec.repeats image).visible >>=
        fun image' ↦ (s.executeAll (some image') rest).visible).run w).after
          [.output (resizeLine dimensions spec)] := by
  rw [visible_executeAll_cons, hst, enact_resize hd hf]
  simp only [resizeImage, hr, visible_bind, visible_output, visible_pure, bind_assoc, pure_bind]
  rw [run_bind, run_report, Outcome.andThen_ok]

end

/-- Applying a filter `k` times and going on shows what `k` resizes that each apply it once show,
but for their lines. -/
theorem exists_rounds {size name : String} {dimensions : Dimensions}
    (hd : Dimensions.parse size = .ok (.ok dimensions))
    (hname : FilterSpec.parse name = .ok ⟨name, 1⟩) {f : NamedFilter κ}
    (hr : s.registry.resolve name = some f) {st : Statement}
    (hst : st.request = some (.resize size name)) (rest : List Statement) (k : Nat) (image : ι)
    (w : σ) :
    ∃ (rounds : List (List (Event ι))) (tail : Outcome (Event ι) σ (Flow ι)),
      (∀ round ∈ rounds, s.IsRound name ⟨dimensions.width, dimensions.height⟩ round) ∧
      rounds.length ≤ k ∧ (rounds = [] → k = 0) ∧
      ((s.applyTimes f ⟨dimensions.width, dimensions.height⟩ k image).visible >>= fun image' ↦
        (s.executeAll (some image') rest).visible).run w = tail.after rounds.flatten ∧
      (s.executeAll (some image) (List.replicate k st ++ rest)).visible.run w =
        tail.after (withLines (resizeLine dimensions ⟨name, 1⟩) rounds) := by
  induction k generalizing image w with
  | zero =>
    exact ⟨[], (s.executeAll (some image) rest).visible.run w,
      fun round h ↦ absurd h List.not_mem_nil, Nat.le_refl 0, fun _ ↦ rfl, rfl, rfl⟩
  | succ k ih =>
    have hround := isRound_applyOnce hr ⟨dimensions.width, dimensions.height⟩ image w
    have honce : s.applyTimes f ⟨dimensions.width, dimensions.height⟩ 1 image =
        s.applyOnce f ⟨dimensions.width, dimensions.height⟩ image := bind_pure _
    rw [List.replicate_succ, List.cons_append, run_executeAll_resize hd hname hr hst, honce,
      applyTimes, visible_bind, bind_assoc, run_bind, run_bind]
    rcases ho : (s.applyOnce f ⟨dimensions.width, dimensions.height⟩ image).visible.run w with
      ⟨round, fault | image', w'⟩
    · rw [ho] at hround
      refine ⟨[round], ⟨[], .error fault, w'⟩, ?_, ?_, ?_, ?_, ?_⟩
      · simpa using hround
      · simp
      · simp
      · simp
      · simp [withLines]
    · rw [ho] at hround
      obtain ⟨rounds, tail, hrounds, hlength, -, hrun, hrun'⟩ := ih image' w'
      refine ⟨round :: rounds, tail, ?_, ?_, ?_, ?_, ?_⟩
      · simpa using ⟨hround, hrounds⟩
      · simpa using hlength
      · simp
      · rw [Outcome.andThen_ok, hrun, Outcome.after_after]
        rfl
      · rw [Outcome.andThen_ok, hrun', Outcome.after_after, Outcome.after_after]
        rfl

/-- A resize that applies its filter `k` times shows what `k` resizes show that apply it once each,
but for the lines. -/
theorem exists_rounds_executeAll {size name filter : String} {dimensions : Dimensions} {k : Nat}
    (hd : Dimensions.parse size = .ok (.ok dimensions))
    (hname : FilterSpec.parse name = .ok ⟨name, 1⟩)
    (hfilter : FilterSpec.parse filter = .ok ⟨name, k⟩) (hk : 1 ≤ k) {stOnce stTimes : Statement}
    (honce : stOnce.request = some (.resize size name))
    (htimes : stTimes.request = some (.resize size filter)) (b : Option ι) (w : σ)
    (rest : List Statement) :
    ∃ (rounds : List (List (Event ι))) (tail : Outcome (Event ι) σ (Flow ι)),
      (∀ round ∈ rounds, s.IsRound name ⟨dimensions.width, dimensions.height⟩ round) ∧
      rounds.length ≤ k ∧ (rounds = [] ↔ b = none) ∧
      (s.executeAll b (stTimes :: rest)).visible.run w =
        tail.after (withLine (resizeLine dimensions ⟨name, k⟩) rounds) ∧
      (s.executeAll b (List.replicate k stOnce ++ rest)).visible.run w =
        tail.after (withLines (resizeLine dimensions ⟨name, 1⟩) rounds) := by
  obtain ⟨k, rfl⟩ := Nat.exists_eq_add_of_le' hk
  cases b with
  | none =>
    refine ⟨[], ⟨[.notice .nothingToResize], .ok (.halt .failed), w⟩,
      fun round h ↦ absurd h List.not_mem_nil, Nat.zero_le _, ⟨fun _ ↦ rfl, fun _ ↦ rfl⟩, ?_, ?_⟩
    · rw [visible_executeAll_cons, htimes, run_bind, run_enact_resize_none hd hfilter]
      rfl
    · rw [List.replicate_succ, List.cons_append, visible_executeAll_cons, honce, run_bind,
        run_enact_resize_none hd hname]
      rfl
  | some image =>
    cases hr : s.registry.resolve name with
    | none =>
      refine ⟨[[.notice (.unknownFilter name)]], ⟨[], .ok (.halt .failed), w⟩, ?_, ?_, by simp,
        ?_, ?_⟩
      · simpa using IsRound.unknown hr
      · simp
      · rw [visible_executeAll_cons, htimes, run_bind, run_enact_resize_unknown hd hfilter hr]
        rfl
      · rw [List.replicate_succ, List.cons_append, visible_executeAll_cons, honce, run_bind,
          run_enact_resize_unknown hd hname hr]
        rfl
    | some f =>
      obtain ⟨rounds, tail, hrounds, hlength, hne, hrun, hrun'⟩ :=
        exists_rounds hd hname hr honce rest (k + 1) image w
      obtain ⟨round, rounds, rfl⟩ := List.exists_cons_of_ne_nil fun h ↦ Nat.succ_ne_zero k (hne h)
      refine ⟨round :: rounds, tail, hrounds, hlength, by simp, ?_, hrun'⟩
      rw [run_executeAll_resize hd hfilter hr htimes, hrun, Outcome.after_after]
      rfl

/-- A resize with a count shows what that many resizes without one show, also if one of them fails:
only the lines differ, and the count has a single one. -/
theorem resize_unrolls {p : List Token} {w w' : σ} {E : List (Event ι)} {b : Option ι}
    {size name : String} {dimensions : Dimensions} {k : Nat}
    (hp : s.Passes none w (script ⟨p⟩) E b w')
    (hd : Dimensions.parse size = .ok (.ok dimensions)) (hne : name ≠ "")
    (htrim : Text.trim name = name) (hopen : '(' ∉ name.toList) (hk : 1 ≤ k)
    (hdigits : (toString k).length ≤ maxNumeralDigits) (r : List Token) :
    ∃ (rounds : List (List (Event ι))) (tail : Outcome (Event ι) σ ExitStatus),
      (∀ round ∈ rounds, s.IsRound name ⟨dimensions.width, dimensions.height⟩ round) ∧
      rounds.length ≤ k ∧ (rounds = [] ↔ b = none) ∧
      (s.runTokens (p ++ [some "/RESIZE", some size, some (name ++ "(" ++ toString k ++ ")")] ++
        r)).visible.run w =
        tail.after (E ++ withLine (resizeLine dimensions ⟨name, k⟩) rounds) ∧
      (s.runTokens (p ++ (List.replicate k [some "/RESIZE", some size, some name]).flatten ++
        r)).visible.run w =
        tail.after (E ++ withLines (resizeLine dimensions ⟨name, 1⟩) rounds) := by
  have hname := FilterSpec.parse_name htrim hopen
  have hcount := FilterSpec.parse_count hne htrim hopen hk hdigits
  let stOnce : Statement := ⟨"/RESIZE", 2, some (.resize size name), 0⟩
  let stTimes : Statement := ⟨"/RESIZE", r.length + 2,
    some (.resize size (name ++ "(" ++ toString k ++ ")")), r.length⟩
  have honce : stOnce.request = some (.resize size name) := rfl
  have htimes : stTimes.request = some (.resize size (name ++ "(" ++ toString k ++ ")")) := rfl
  obtain ⟨rounds, tail, hrounds, hlength, hempty, hrun, hrun'⟩ :=
    exists_rounds_executeAll (s := s) hd hname hcount hk honce htimes b w' (script ⟨r⟩)
  refine ⟨rounds, tail.map Flow.status, hrounds, hlength, hempty, ?_, ?_⟩
  · rw [List.append_assoc, run_append_of_passes hp, run_visible_runFrom]
    simp only [List.cons_append, List.nil_append]
    rw [script_resize, hrun, Outcome.map_after, Outcome.after_after]
  · have hrequests : (script ⟨(List.replicate k [some "/RESIZE", some size, some name]).flatten ++
        r⟩).map Statement.request = (List.replicate k stOnce ++ script ⟨r⟩).map Statement.request := by
      rw [map_request_script_replicate, List.map_append, List.map_replicate]
    rw [List.append_assoc, run_append_of_passes hp, run_visible_runFrom,
      visible_executeAll_congr hrequests, hrun', Outcome.map_after, Outcome.after_after]

theorem resize_unrolls_to_failure :
    ∃ E w', Rehearsal.sampleWithFailure.Passes none {} (script ⟨["/LOAD", "a"].map some⟩) E
        (some ⟨"a", 4, 3, []⟩) w' ∧
      ∃ dimensions, Dimensions.parse "0x0" = .ok (.ok dimensions) ∧ "Pixel" ≠ "" ∧
        Text.trim "Pixel" = "Pixel" ∧ '(' ∉ "Pixel".toList ∧ 1 ≤ 3 ∧
        (toString 3).length ≤ maxNumeralDigits ∧
        ∃ (rounds : List (List (Event SketchedImage))) (tail : Outcome _ Tally ExitStatus),
          (∀ round ∈ rounds, Rehearsal.sampleWithFailure.IsRound "Pixel"
            ⟨dimensions.width, dimensions.height⟩ round) ∧
          rounds.length ≤ 3 ∧ (rounds = [] ↔ some (⟨"a", 4, 3, []⟩ : SketchedImage) = none) ∧
          (Rehearsal.sampleWithFailure.runTokens (["/LOAD", "a"].map some ++
            [some "/RESIZE", some "0x0", some ("Pixel" ++ "(" ++ toString 3 ++ ")")] ++
            ["/SAVE", "b.png"].map some)).visible.run {} =
            tail.after (E ++ withLine (resizeLine dimensions ⟨"Pixel", 3⟩) rounds) ∧
          (Rehearsal.sampleWithFailure.runTokens (["/LOAD", "a"].map some ++
            (List.replicate 3 [some "/RESIZE", some "0x0", some "Pixel"]).flatten ++
            ["/SAVE", "b.png"].map some)).visible.run {} =
            tail.after (E ++ withLines (resizeLine dimensions ⟨"Pixel", 1⟩) rounds) := by
  have hresult : ((Rehearsal.sampleWithFailure.executeAll none
      (script ⟨["/LOAD", "a"].map some⟩)).run {}).result = .ok (.next (some ⟨"a", 4, 3, []⟩)) := by
    decide +kernel
  have hloaded := passes_of_result hresult
  have hsize : Dimensions.parse "0x0" = .ok (.ok ⟨0, 0⟩) := by decide +kernel
  have htrim : Text.trim "Pixel" = "Pixel" := by decide +kernel
  have hopen : '(' ∉ "Pixel".toList := by decide
  have hdigits : (toString 3).length ≤ maxNumeralDigits := by decide +kernel
  exact ⟨_, _, hloaded, _, hsize, by decide, htrim, hopen, by decide, hdigits,
    resize_unrolls hloaded hsize (by decide) htrim hopen (by decide) hdigits _⟩

end Session

end BatchScaler

import BatchScaler.Program.Run
import BatchScaler.Proofs.Script.Execution
import BatchScaler.Proofs.Script.Reading
import BatchScaler.Proofs.Service.Rehearsal

namespace BatchScaler

variable {σ ι κ : Type}

inductive Report
  | help
  | notice (notice : Notice)

namespace Event

def texts (events : List (Event ι)) : List String :=
  events.filterMap fun
    | output text => some text
    | _ => none

def notices (events : List (Event ι)) : List Notice :=
  events.filterMap fun
    | notice n => some n
    | _ => none

@[simp] theorem texts_append (xs ys : List (Event ι)) : texts (xs ++ ys) = texts xs ++ texts ys :=
  List.filterMap_append

@[simp] theorem notices_append (xs ys : List (Event ι)) :
    notices (xs ++ ys) = notices xs ++ notices ys :=
  List.filterMap_append

end Event

def Request.line? : Option Request → Option String
  | some (.resize size filter) =>
    match Dimensions.parse size, FilterSpec.parse filter with
    | .ok (.ok dimensions), .ok spec => some (Session.resizeLine dimensions spec)
    | _, _ => none
  | _ => none

namespace Session

open BatchScaler.Action

variable (s : Session σ ι κ)

def reportEvent : Report → Event ι
  | .help => s.helpEvent
  | .notice notice => .notice notice

/-- How a statement halts a run, with the status it ends with and what is shown then. -/
inductive Halts (w : σ) : Option Request → Option ι → ExitStatus → Option Report → Prop
  | exit {ignored : Nat} {b : Option ι} : Halts w (some (.exit ignored)) b .done none
  | unknown {b : Option ι} : Halts w none b .unknownCommand (some .help)
  | incomplete {b : Option ι} : Halts w (some .incomplete) b .failed (some .help)
  | badSize {size filter : String} {b : Option ι} {rejection : Dimensions.Rejection}
      (hd : Dimensions.parse size = .ok (.error rejection)) :
      Halts w (some (.resize size filter)) b .failed (some .help)
  | nothingToResize {size filter : String} {dimensions : Dimensions} {spec : FilterSpec}
      (hd : Dimensions.parse size = .ok (.ok dimensions)) (hf : FilterSpec.parse filter = .ok spec) :
      Halts w (some (.resize size filter)) none .failed (some (.notice .nothingToResize))
  | unknownFilter {size filter : String} {image : ι} {dimensions : Dimensions} {spec : FilterSpec}
      (hd : Dimensions.parse size = .ok (.ok dimensions)) (hf : FilterSpec.parse filter = .ok spec)
      (hr : s.registry.resolve spec.name = none) :
      Halts w (some (.resize size filter)) (some image) .failed
        (some (.notice (.unknownFilter spec.name)))
  | nothingToSave {path : String} :
      Halts w (some (.save path)) none .failed (some (.notice .nothingToSave))
  | missingEncoder {path : String} {image : ι} {w' : σ} (hj : isJpegPath path = true)
      (he : (s.service.hasEncoder jpegMime).Yields w false w') :
      Halts w (some (.save path)) (some image) .failed
        (some (.notice (.missingEncoder jpegMime)))

/-- How a run ends: the status, what is shown last, and the statement it came to then. -/
inductive Ends (tokens : List Token) (w : σ) : ExitStatus → Option Report → Prop
  | exhausted {E : List (Event ι)} {b : Option ι} {w' : σ}
      (h : s.Passes none w (script ⟨tokens⟩) E b w') : Ends tokens w .done none
  | exit {st : Statement} {b : Option ι} {w' : σ}
      (hst : s.Reaches w (script ⟨tokens⟩) st b w') (hc : st.command = "/EXIT") :
      Ends tokens w .done none
  | unknown {st : Statement} {b : Option ι} {w' : σ}
      (hst : s.Reaches w (script ⟨tokens⟩) st b w') (hc : st.command ∉ commandWords) :
      Ends tokens w .unknownCommand (some .help)
  | lacking {st : Statement} {b : Option ι} {w' : σ} {operands : List Token}
      (hst : s.Reaches w (script ⟨tokens⟩) st b w') (ho : st.ReadFrom tokens operands)
      (hl : LacksOperand st.command operands) : Ends tokens w .failed (some .help)
  | badSize {st : Statement} {b : Option ι} {w' : σ} {size filter : String}
      {rejection : Dimensions.Rejection} (hst : s.Reaches w (script ⟨tokens⟩) st b w')
      (hr : st.request = some (.resize size filter))
      (hd : Dimensions.parse size = .ok (.error rejection)) :
      Ends tokens w .failed (some .help)
  | refused {st : Statement} {b : Option ι} {w' : σ} {notice : Notice}
      (hst : s.Reaches w (script ⟨tokens⟩) st b w')
      (hh : s.Halts w' st.request b .failed (some (.notice notice))) :
      Ends tokens w .failed (some (.notice notice))
  | aborted {st : Statement} {b : Option ι} {w' : σ} {path reason : String}
      (hst : s.Reaches w (script ⟨tokens⟩) st b w')
      (hf : ((s.execute st b).run w').result = .error (.io path reason)) :
      Ends tokens w .failed (some (.notice (.ioFailure path reason)))

variable {s}

theorem applyTimes_quiet (f : NamedFilter κ) (requested : Size) (n : Nat) (image : ι) (w : σ) :
    Event.texts ((s.applyTimes f requested n image).visible.run w).events = [] ∧
      Event.notices ((s.applyTimes f requested n image).visible.run w).events = [] := by
  have happ := applyTimes_isApplication s f requested n image w
  constructor
  · refine List.filterMap_eq_nil_iff.2 fun event he ↦ ?_
    rcases happ event he with ⟨image', name, requested', rfl⟩ | rfl | rfl <;> rfl
  · refine List.filterMap_eq_nil_iff.2 fun event he ↦ ?_
    rcases happ event he with ⟨image', name, requested', rfl⟩ | rfl | rfl <;> rfl

/-- What is visible of a statement is its work and, if it halts the run, a report at the end. -/
theorem enact_reports (w : σ) (request : Option Request) (b : Option ι) :
    ∃ work report,
      ((s.enact request b).visible.run w).events = work ++ (report.map s.reportEvent).toList ∧
      Event.notices work = [] ∧
      (Event.texts work = [] ∨ Event.texts work = (Request.line? request).toList) ∧
      match ((s.enact request b).run w).result with
      | .ok (.next _) => report = none ∧ Event.texts work = (Request.line? request).toList
      | .ok (.halt status) => s.Halts w request b status report
      | .error _ => report = none := by
  have hresult : ((s.enact request b).visible.run w).result = ((s.enact request b).run w).result :=
    rfl
  rw [← hresult]
  have hstep := enacts_enact (s := s) w request b
  generalize (s.enact request b).visible.run w = outcome at hstep
  cases hstep with
  | unknown => exact ⟨[], some .help, rfl, rfl, .inl rfl, .unknown⟩
  | exit => exact ⟨[], none, rfl, rfl, .inl rfl, .exit⟩
  | incomplete => exact ⟨[], some .help, rfl, rfl, .inl rfl, .incomplete⟩
  | @load path b o ho =>
    refine ⟨[.load path], none, rfl, rfl, .inl rfl, ?_⟩
    rcases o with ⟨logs, fault | image, w'⟩
    · exact rfl
    · exact ⟨rfl, rfl⟩
  | unreadableSize | unreadableCount => exact ⟨[], none, rfl, rfl, .inl rfl, rfl⟩
  | badSize hd => exact ⟨[], some .help, rfl, rfl, .inl rfl, .badSize hd⟩
  | nothingToResize hd hf =>
    exact ⟨[], some (.notice .nothingToResize), rfl, rfl, .inl rfl, .nothingToResize hd hf⟩
  | @unknownFilter size filter image dimensions spec hd hf hr =>
    refine ⟨[.output (resizeLine dimensions spec)], some (.notice (.unknownFilter spec.name)), rfl,
      rfl, .inr ?_, .unknownFilter hd hf hr⟩
    simp only [Request.line?, hd, hf]
    rfl
  | @resize size filter image dimensions spec f o hd hf hr ho =>
    have hquiet := applyTimes_quiet (s := s) f ⟨dimensions.width, dimensions.height⟩ spec.repeats
      image w
    rw [ho] at hquiet
    have hline : Event.texts (.output (resizeLine dimensions spec) :: o.events) =
        (Request.line? (some (.resize size filter))).toList := by
      simp only [Request.line?, hd, hf]
      exact congrArg (resizeLine dimensions spec :: ·) hquiet.1
    refine ⟨.output (resizeLine dimensions spec) :: o.events, none, (List.append_nil _).symm,
      hquiet.2, .inr hline, ?_⟩
    rcases o with ⟨events, fault | image', w'⟩
    · exact rfl
    · exact ⟨rfl, hline⟩
  | nothingToSave => exact ⟨[], some (.notice .nothingToSave), rfl, rfl, .inl rfl, .nothingToSave⟩
  | @save path image o hj ho =>
    refine ⟨[.save path image], none, rfl, rfl, .inl rfl, ?_⟩
    rcases o with ⟨logs, fault | done, w'⟩
    · exact rfl
    · exact ⟨rfl, rfl⟩
  | probeFault => exact ⟨[.hasEncoder jpegMime], none, rfl, rfl, .inl rfl, rfl⟩
  | missingEncoder hj he =>
    exact ⟨[.hasEncoder jpegMime], some (.notice (.missingEncoder jpegMime)), rfl, rfl, .inl rfl,
      .missingEncoder hj he⟩
  | @saveWithQuality path image w' o hj he ho =>
    refine ⟨[.hasEncoder jpegMime, .saveWithQuality path image jpegMime jpegQuality], none, rfl, rfl,
      .inl rfl, ?_⟩
    rcases o with ⟨logs, fault | done, w''⟩
    · exact rfl
    · exact ⟨rfl, rfl⟩

/-- Statements that are all carried out show no report, and write one line for each resize. -/
theorem passes_reports {b b' : Option ι} {w w' : σ} {sts : List Statement} {E : List (Event ι)}
    (h : s.Passes b w sts E b' w') :
    Event.notices E = [] ∧ Event.texts E = sts.filterMap fun st ↦ Request.line? st.request := by
  induction sts generalizing b w E with
  | nil =>
    obtain ⟨rfl, -, -⟩ := passes_nil.1 h
    exact ⟨rfl, rfl⟩
  | cons st rest ih =>
    obtain ⟨E₁, b₁, w₁, E₂, hfirst, hrest, rfl⟩ := passes_cons.1 h
    obtain ⟨work, report, hevents, hnotices, -, hreport⟩ :=
      enact_reports (s := s) w st.request b
    have hresult : ((s.enact st.request b).run w).result = .ok (.next b₁) :=
      congrArg Outcome.result hfirst
    rw [hresult] at hreport
    obtain ⟨rfl, htexts⟩ := hreport
    obtain rfl : E₁ = work := by
      rw [hfirst] at hevents
      simpa using hevents
    obtain ⟨hnotices', htexts'⟩ := ih hrest
    refine ⟨by rw [Event.notices_append, hnotices, hnotices']; rfl, ?_⟩
    rw [Event.texts_append, htexts, htexts', List.filterMap_cons]
    cases Request.line? st.request <;> rfl

theorem texts_of_stop {sts done rest : List Statement} {st : Statement} {E work : List (Event ι)}
    (hsplit : sts = done ++ st :: rest)
    (hdone : Event.texts E = done.filterMap fun st ↦ Request.line? st.request)
    (hwork : Event.texts work = [] ∨ Event.texts work = (Request.line? st.request).toList) :
    ∃ carried, carried <+: sts ∧
      Event.texts (E ++ work) = carried.filterMap fun st ↦ Request.line? st.request := by
  rw [Event.texts_append, hdone]
  rcases hwork with hwork | hwork
  · refine ⟨done, ?_, by rw [hwork, List.append_nil]⟩
    rw [hsplit]
    exact List.prefix_append _ _
  · refine ⟨done ++ [st], ⟨rest, ?_⟩, ?_⟩
    · rw [hsplit, List.append_assoc]
      rfl
    · rw [hwork, List.filterMap_append, List.filterMap_cons]
      cases Request.line? st.request <;> rfl

theorem ends_of_halts {tokens : List Token} {w w' : σ} {st : Statement} {b : Option ι}
    {status : ExitStatus} {report : Option Report} (hst : s.Reaches w (script ⟨tokens⟩) st b w')
    (hh : s.Halts w' st.request b status report) : s.Ends tokens w status report := by
  obtain ⟨operands, ho⟩ := readFrom_of_mem_script hst.mem
  have hread := ho.request_eq
  generalize hr : st.request = request at hh
  rw [hr] at hread
  cases hh with
  | exit => exact .exit hst (Request.read_eq_exit hread.symm)
  | unknown => exact .unknown hst (Request.read_eq_none_iff.1 hread.symm)
  | incomplete => exact .lacking hst ho (Request.read_eq_incomplete_iff.1 hread.symm)
  | badSize hd => exact .badSize hst hr hd
  | nothingToResize hd hf => exact .refused hst (hr ▸ .nothingToResize hd hf)
  | unknownFilter hd hf hn => exact .refused hst (hr ▸ .unknownFilter hd hf hn)
  | nothingToSave => exact .refused hst (hr ▸ .nothingToSave)
  | missingEncoder hj he => exact .refused hst (hr ▸ .missingEncoder hj he)

theorem executeAll_reports (s : Session σ ι κ) (tokens : List Token) (w : σ) :
    ∃ work report,
      ((s.executeAll none (script ⟨tokens⟩)).visible.run w).events =
        work ++ (report.map s.reportEvent).toList ∧
      Event.notices work = [] ∧
      (∃ carried, carried <+: script ⟨tokens⟩ ∧
        Event.texts work = carried.filterMap fun st ↦ Request.line? st.request) ∧
      match ((s.executeAll none (script ⟨tokens⟩)).run w).result with
      | .ok flow => s.Ends tokens w flow.status report
      | .error fault => report = none ∧ ∃ st b w', s.Reaches w (script ⟨tokens⟩) st b w' ∧
          ((s.execute st b).run w').result = .error fault := by
  have hresult : ((s.executeAll none (script ⟨tokens⟩)).visible.run w).result =
      ((s.executeAll none (script ⟨tokens⟩)).run w).result := rfl
  rw [← hresult]
  rcases s.passes_or_stops none w (script ⟨tokens⟩) with
    ⟨E, b, w', h⟩ | ⟨done, st, rest, E, b, w', hsplit, hpass, hstop, hrun⟩
  · obtain ⟨hnotices, htexts⟩ := passes_reports h
    rw [h]
    exact ⟨E, none, (List.append_nil E).symm, hnotices, ⟨_, List.prefix_refl _, htexts⟩,
      .exhausted h⟩
  · obtain ⟨hnotices, htexts⟩ := passes_reports hpass
    obtain ⟨work, report, hevents, hquiet, hlines, hreport⟩ :=
      enact_reports (s := s) w' st.request b
    have hreach : s.Reaches w (script ⟨tokens⟩) st b w' := ⟨done, rest, E, hsplit, hpass⟩
    rw [hrun]
    refine ⟨E ++ work, report, ?_, ?_, texts_of_stop hsplit htexts hlines, ?_⟩
    · rw [Outcome.events_after, hevents, List.append_assoc]
    · rw [Event.notices_append, hnotices, hquiet]
      rfl
    · rw [Outcome.result_after, result_visible]
      cases hr : ((s.enact st.request b).run w').result with
      | error fault =>
        rw [hr] at hreport
        exact ⟨hreport, st, b, w', hreach, (s.result_execute st b w').trans hr⟩
      | ok flow =>
        rw [hr] at hreport
        cases flow with
        | next b' => exact absurd hr (hstop b')
        | halt status => exact ends_of_halts hreach hreport

theorem run_runGuarded (s : Session σ ι κ) (tokens : List Token) (w : σ) :
    (s.runGuarded tokens).visible.run w =
      ((s.runTokens tokens).visible.run w).orElse fun fault ↦
        match fault with
        | .io path reason => do
          report (.notice (.ioFailure path reason))
          return .failed
        | fault => fail fault := by
  have hbody : (s.runTokens tokens >>= fun status ↦ do
      log .debug "main" ("exit code " ++ toString status.code)
      return status).visible = (s.runTokens tokens).visible := by
    simp only [visible_bind, visible_log, visible_pure, pure_bind, bind_pure]
  rw [runGuarded, visible_recover, run_recover, hbody]
  congr 1
  funext fault
  cases fault with
  | io path reason =>
    simp only [visible_bind, visible_log, visible_notice, visible_pure, pure_bind]
  | _ => rfl

/-- The status of a run and the report that the user gets always match, and the report is the last
thing to be seen of the run. All that is written before it are the lines of resizes; the text of a
line is up to the script, so it may well read like the help transcript. -/
theorem status_matches_report {tokens : List Token} {w : σ} {status : ExitStatus}
    (h : ((s.runGuarded tokens).run w).result = .ok status) :
    ∃ work report,
      Event.visible ((s.runGuarded tokens).run w).events =
        work ++ (report.map s.reportEvent).toList ∧
      Event.notices work = [] ∧
      (∃ carried, carried <+: script ⟨tokens⟩ ∧
        Event.texts work = carried.filterMap fun st ↦ Request.line? st.request) ∧
      s.Ends tokens w status report := by
  obtain ⟨work, report, hevents, hquiet, hlines, hends⟩ := executeAll_reports s tokens w
  have hrun := s.run_runGuarded tokens w
  rw [runTokens, run_visible_runFrom] at hrun
  rw [← events_visible]
  rw [← result_visible] at h
  rw [← result_visible] at hends
  rcases ho : (s.executeAll none (script ⟨tokens⟩)).visible.run w with ⟨E, fault | flow, w'⟩
  · rw [ho] at hrun hevents hends
    obtain ⟨rfl, st, b, w'', hreach, hfault⟩ := hends
    cases fault with
    | io path reason =>
      rw [hrun] at h ⊢
      cases h
      refine ⟨work, some (.notice (.ioFailure path reason)), ?_, hquiet, hlines,
        .aborted hreach hfault⟩
      have hwork : E = work := hevents.trans (List.append_nil work)
      rw [← hwork]
      rfl
    | _ =>
      rw [hrun] at h
      cases h
  · rw [ho] at hrun hevents hends
    rw [hrun] at h ⊢
    cases h
    exact ⟨work, report, hevents, hquiet, hlines, hends⟩

theorem status_matches_report_of_jpeg :
    ((Rehearsal.sample.runGuarded (["/LOAD", "a", "/RESIZE", "0x6", "pixel(2)", "/SAVE", "b.jpg",
      "/EXIT"].map some)).run {}).result = .ok .failed ∧
    ∃ report, Rehearsal.sample.Ends (["/LOAD", "a", "/RESIZE", "0x6", "pixel(2)", "/SAVE", "b.jpg",
      "/EXIT"].map some) {} .failed report := by
  have hfailed : ((Rehearsal.sample.runGuarded (["/LOAD", "a", "/RESIZE", "0x6", "pixel(2)",
      "/SAVE", "b.jpg", "/EXIT"].map some)).run {}).result = .ok .failed := by decide +kernel
  obtain ⟨-, report, -, -, -, hends⟩ := status_matches_report hfailed
  exact ⟨hfailed, report, hends⟩

/-- A method operand that is missing from its place is an empty name: the user is told of an unknown
filter, and the help transcript is not written. -/
theorem absent_method_is_unknown_filter :
    ((Rehearsal.sample.runGuarded
      [some "/LOAD", some "a", some "/RESIZE", some "1x1", none]).run {}).result = .ok .failed ∧
    Event.visible ((Rehearsal.sample.runGuarded
      [some "/LOAD", some "a", some "/RESIZE", some "1x1", none]).run {}).events =
      [.load "a", .output "1 1 1 \n", .notice (.unknownFilter "")] ∧
    Rehearsal.sample.helpEvent ∉ Event.visible ((Rehearsal.sample.runGuarded
      [some "/LOAD", some "a", some "/RESIZE", some "1x1", none]).run {}).events := by
  refine ⟨by decide +kernel, by decide +kernel, by decide +kernel⟩

end Session

end BatchScaler

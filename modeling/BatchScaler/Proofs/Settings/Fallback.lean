import Mathlib.Order.MinMax
import BatchScaler.Proofs.Report.Outcome
import BatchScaler.Proofs.Settings.Nesting
import BatchScaler.Settings.Basic

namespace BatchScaler

def Entry.Reads (limit : Nat) (e : Entry) (read : Except ReadFailure Value) : Prop :=
  ∃ bytes, e = .document bytes ∧ Value.ofBytes limit bytes = read

@[simp] theorem Entry.reads_document {limit : Nat} {bytes : ByteArray}
    {read : Except ReadFailure Value} :
    (document bytes).Reads limit read ↔ Value.ofBytes limit bytes = read := by
  simp [Reads]

theorem Entry.not_reads {limit : Nat} {e : Entry} (h : ∀ bytes, e ≠ .document bytes)
    (read : Except ReadFailure Value) : ¬ e.Reads limit read := by
  rintro ⟨bytes, rfl, -⟩
  exact h bytes rfl

def Disk.Holds (limit : Nat) (d : Disk) (path : String) (read : Except ReadFailure Value) : Prop :=
  ∃ e, d.find? path = some e ∧ e.Reads limit read

def Disk.NestsTooDeep (limit : Nat) (d : Disk) (path : String) : Prop :=
  ∃ bytes document, d.find? path = some (.document bytes) ∧
    String.fromUTF8? bytes = some document ∧ NestedTooDeep limit document.toList

theorem Disk.holds_tooDeep_iff {limit : Nat} {d : Disk} {path : String} :
    d.Holds limit path (.error .tooDeep) ↔ d.NestsTooDeep limit path := by
  simp only [Holds, Entry.Reads, NestsTooDeep, Value.ofBytes_eq_tooDeep_iff]
  constructor
  · rintro ⟨_, hfind, bytes, rfl, document, hutf8, hdeep⟩
    exact ⟨bytes, document, hfind, hutf8, hdeep⟩
  · rintro ⟨bytes, document, hfind, hutf8, hdeep⟩
    exact ⟨_, hfind, bytes, rfl, document, hutf8, hdeep⟩

namespace Value

/-- The integers that values denote; a fraction does not count. -/
inductive Denotes : Value → ℤ → Prop
  | boolean (b : Bool) : Denotes (.boolean b) (if b then 1 else 0)
  | integer (n : ℤ) : Denotes (.integer n) n
  | real {x : Binary64} {n : ℤ} (h : x.truncate? = some n) : Denotes (.real x) n
  | text {points : Points} {cs : List Char} {n : ℤ} (hchars : points.toChars? = some cs)
      (hnumeral : Numeral.grouped? cs = some n) : Denotes (.text points) n

def IsInfinite (value : Value) : Prop :=
  ∃ negative, value = .real (.infinite negative)

def spelling? : Value → Option String
  | text points =>
    points.toChars?.map fun cs ↦ Text.lowerAscii (String.ofList (Text.trimChars cs))
  | _ => none

end Value

namespace Settings

variable {decoder : Decoder}

theorem ofEntry_eq_error_iff {path : String} {e : Entry} {fault : Fault} :
    ofEntry decoder path e = .error fault ↔
      fault = .nestedTooDeep ∧ e.Reads decoder.maxNesting (.error .tooDeep) := by
  cases e with
  | document bytes =>
    rcases hread : Value.ofBytes decoder.maxNesting bytes with (_ | _) | value
    · simp [ofEntry, document, hread]
    · simp [ofEntry, document, hread, eq_comm]
    · cases value <;> simp [ofEntry, document, hread]
  | _ => simp [ofEntry, document, Entry.not_reads]

/-- The settings are the members of the object that the entry holds, and there are none if it holds
no object. -/
theorem settings_of_ofEntry {path : String} {e : Entry} {s : Settings} {record : LogRecord}
    (h : ofEntry decoder path e = .ok (s, record)) :
    e.Reads decoder.maxNesting (.ok (.object s.members)) ∨
      s = {} ∧ ∀ members, ¬ e.Reads decoder.maxNesting (.ok (.object members)) := by
  cases e with
  | document bytes =>
    rcases hread : Value.ofBytes decoder.maxNesting bytes with (_ | _) | value
    · simp_all [ofEntry, document]
    · simp_all [ofEntry, document]
    · cases value with
      | object members =>
        simp only [ofEntry, document, hread, Except.ok.injEq, Prod.mk.injEq] at h
        exact .inl (Entry.reads_document.2 (h.1 ▸ hread))
      | _ => simp_all [ofEntry, document]
  | _ => simp_all [ofEntry, document, Entry.not_reads]

variable {d d' : Disk} {path : String}

theorem load_of_missing (h : d.find? path = none) :
    (load path decoder).run d = ⟨[], .ok {}, d⟩ := by
  rw [load, Action.run_bind]
  show Outcome.andThen ⟨[], .ok (d.find? path), d⟩ _ = _
  rw [h]
  rfl

theorem load_of_entry {e : Entry} (h : d.find? path = some e) :
    (load path decoder).run d =
      match ofEntry decoder path e with
      | .error fault => ⟨[], .error fault, d⟩
      | .ok (s, record) => ⟨[record], .ok s, d⟩ := by
  rw [load, Action.run_bind]
  show Outcome.andThen ⟨[], .ok (d.find? path), d⟩ _ = _
  rw [h]
  show ((Action.ofExcept (ofEntry decoder path e) >>= _).run d).after [] = _
  rw [Action.run_bind, Action.run_ofExcept]
  rcases ofEntry decoder path e with fault | ⟨s, record⟩ <;> rfl

theorem state_load : ((load path decoder).run d).state = d := by
  cases h : d.find? path with
  | none => rw [load_of_missing h]
  | some e =>
    rw [load_of_entry h]
    split <;> rfl

theorem load_fails_iff {fault : Fault} :
    ((load path decoder).run d).result = .error fault ↔
      fault = .nestedTooDeep ∧ d.Holds decoder.maxNesting path (.error .tooDeep) := by
  cases h : d.find? path with
  | none => simp [load_of_missing h, Disk.Holds, h]
  | some e =>
    have herror : ((load path decoder).run d).result = .error fault ↔
        ofEntry decoder path e = .error fault := by
      rw [load_of_entry h]
      split <;> simp_all
    rw [herror, ofEntry_eq_error_iff]
    simp [Disk.Holds, h]

theorem settings_of_load {s : Settings} (h : ((load path decoder).run d).result = .ok s) :
    d.Holds decoder.maxNesting path (.ok (.object s.members)) ∨
      s = {} ∧ ∀ members, ¬ d.Holds decoder.maxNesting path (.ok (.object members)) := by
  cases hfind : d.find? path with
  | none =>
    rw [load_of_missing hfind] at h
    cases h
    exact .inr ⟨rfl, by simp [Disk.Holds, hfind]⟩
  | some e =>
    rw [load_of_entry hfind] at h
    cases hentry : ofEntry decoder path e with
    | error fault =>
      rw [hentry] at h
      cases h
    | ok result =>
      obtain ⟨s', record⟩ := result
      rw [hentry] at h
      cases h
      simpa [Disk.Holds, hfind] using settings_of_ofEntry hentry

section Values

variable {σ : Type} (s : Settings)

def value (key : String) : Value :=
  s.get (.ofString key) .null

theorem errorOutput_yields (w : σ) :
    ∃ name, (s.errorOutput : Action LogRecord σ String).Yields w name w ∧
      (name = "dialog" ∧ (s.value "error_output").spelling? = some "dialog" ∨
        name = "console" ∧ (s.value "error_output").spelling? ≠ some "dialog") := by
  unfold errorOutput
  rw [← value]
  cases s.value "error_output" with
  | text points =>
    dsimp only [Value.spelling?]
    cases hname : (points.toChars?.map fun cs ↦
        Text.lowerAscii (String.ofList (Text.trimChars cs))).filter errorOutputs.contains with
    | none =>
      refine ⟨"console", ⟨rfl, rfl⟩, .inr ⟨rfl, fun hdialog ↦ ?_⟩⟩
      rw [hdialog] at hname
      cases hname
    | some name =>
      obtain ⟨hspelling, hknown⟩ := Option.filter_eq_some_iff.1 hname
      refine ⟨name, ⟨rfl, rfl⟩, ?_⟩
      rw [hspelling]
      simp only [errorOutputs, List.contains_eq_mem, List.mem_cons, List.not_mem_nil, or_false,
        decide_eq_true_eq] at hknown
      rcases hknown with rfl | rfl
      · exact .inr ⟨rfl, by decide⟩
      · exact .inl ⟨rfl, rfl⟩
  | _ => exact ⟨"console", ⟨rfl, rfl⟩, .inr ⟨rfl, nofun⟩⟩

theorem programName_ne_nil : s.programName ≠ [] := by
  unfold programName
  split
  · exact List.cons_ne_nil _ _
  · decide

theorem programName_named_or_default :
    s.value "program_name" = .text s.programName ∨
      s.programName = .ofString "image-resizer" ∧
        ∀ points, s.value "program_name" = .text points → points = [] := by
  unfold programName
  rw [← value]
  split
  · next point points h => exact .inl h
  · next h =>
    refine .inr ⟨rfl, fun points hpoints ↦ ?_⟩
    cases points with
    | nil => rfl
    | cons point points => exact absurd hpoints (h point points)

theorem integerOf_eq_error_iff {value : Value} {fault : Fault} :
    integerOf value = .error fault ↔ fault = .overflow ∧ value.IsInfinite := by
  unfold integerOf Value.IsInfinite
  split <;> simp_all [eq_comm]

theorem integerOf_of_denotes {value : Value} {n : ℤ} (h : value.Denotes n) :
    integerOf value = .ok n := by
  cases h with
  | boolean b => rfl
  | integer => rfl
  | @real x n hx =>
    cases x with
    | finite negative size => simp [integerOf, hx]
    | infinite negative => cases hx
    | notANumber => cases hx
  | text hchars hnumeral => simp [integerOf, hchars, hnumeral]

theorem integerOf_of_unusable {value : Value} (h : ∀ n, ¬ value.Denotes n)
    (hfinite : ¬ value.IsInfinite) : integerOf value = .ok 0 := by
  cases value with
  | boolean b => exact absurd (.boolean b) (h _)
  | integer n => exact absurd (.integer n) (h _)
  | real x =>
    cases x with
    | finite negative size => exact absurd (.real rfl) (h _)
    | infinite negative => exact absurd ⟨negative, rfl⟩ hfinite
    | notANumber => rfl
  | text points =>
    cases hchars : points.toChars? with
    | none => simp [integerOf, hchars]
    | some cs =>
      cases hnumeral : Numeral.grouped? cs with
      | none => simp [integerOf, hchars, hnumeral]
      | some n => exact absurd (.text hchars hnumeral) (h n)
  | _ => rfl

theorem cacheMax_cases :
    s.cacheMax = .error .overflow ∧ (s.value "vips_cache_max").IsInfinite ∨
      ∃ n, s.cacheMax = .ok n ∧ 0 ≤ n ∧ ¬ (s.value "vips_cache_max").IsInfinite ∧
        ((∃ m, (s.value "vips_cache_max").Denotes m ∧ n = max 0 m) ∨
          n = 0 ∧ ∀ m, ¬ (s.value "vips_cache_max").Denotes m) := by
  have hok {m : ℤ} (h : integerOf (s.value "vips_cache_max") = .ok m) :
      s.cacheMax = .ok (max 0 m) ∧ ¬ (s.value "vips_cache_max").IsInfinite := by
    refine ⟨Except.bind_eq_ok_iff.2 ⟨m, h, rfl⟩, fun hinfinite ↦ ?_⟩
    cases h.symm.trans (integerOf_eq_error_iff.2 ⟨rfl, hinfinite⟩)
  by_cases hinfinite : (s.value "vips_cache_max").IsInfinite
  · exact .inl ⟨Except.bind_eq_error_iff.2 (.inl (integerOf_eq_error_iff.2 ⟨rfl, hinfinite⟩)),
      hinfinite⟩
  · by_cases hdenotes : ∃ m, (s.value "vips_cache_max").Denotes m
    · obtain ⟨m, hm⟩ := hdenotes
      obtain ⟨hcache, hfinite⟩ := hok (integerOf_of_denotes hm)
      exact .inr ⟨_, hcache, le_max_left 0 m, hfinite, .inl ⟨m, hm, rfl⟩⟩
    · have hunusable := not_exists.1 hdenotes
      obtain ⟨hcache, hfinite⟩ := hok (integerOf_of_unusable hunusable hinfinite)
      exact .inr ⟨0, hcache, le_rfl, hfinite, .inr ⟨rfl, hunusable⟩⟩

end Values

/-- Loading fails for a document that is nested too deeply and for nothing else, and of what is
loaded every value that is unusable gives way to its default except an infinite size of the cache,
for which there is no integer. -/
theorem fall_back (decoder : Decoder) (path : String) (d : Disk) :
    ((((load path decoder).run d).result = .error .nestedTooDeep ∧
        d.NestsTooDeep decoder.maxNesting path) ∨
      ∃ s, (load path decoder).Yields d s d ∧ ¬ d.NestsTooDeep decoder.maxNesting path ∧
        (d.Holds decoder.maxNesting path (.ok (.object s.members)) ∨
          s = {} ∧ ∀ members, ¬ d.Holds decoder.maxNesting path (.ok (.object members)))) ∧
    ∀ s : Settings,
      (∃ name, s.errorOutput.Yields d name d ∧
        (name = "dialog" ∧ (s.value "error_output").spelling? = some "dialog" ∨
          name = "console" ∧ (s.value "error_output").spelling? ≠ some "dialog")) ∧
      (s.programName ≠ [] ∧ (s.value "program_name" = .text s.programName ∨
        s.programName = .ofString "image-resizer" ∧
          ∀ points, s.value "program_name" = .text points → points = [])) ∧
      (s.cacheMax = .error .overflow ∧ (s.value "vips_cache_max").IsInfinite ∨
        ∃ n, s.cacheMax = .ok n ∧ 0 ≤ n ∧ ¬ (s.value "vips_cache_max").IsInfinite ∧
          ((∃ m, (s.value "vips_cache_max").Denotes m ∧ n = max 0 m) ∨
            n = 0 ∧ ∀ m, ¬ (s.value "vips_cache_max").Denotes m)) := by
  refine ⟨?_, fun s ↦ ⟨s.errorOutput_yields d,
    ⟨s.programName_ne_nil, s.programName_named_or_default⟩, s.cacheMax_cases⟩⟩
  cases hresult : ((load path decoder).run d).result with
  | error fault =>
    obtain ⟨rfl, hdeep⟩ := load_fails_iff.1 hresult
    exact .inl ⟨rfl, Disk.holds_tooDeep_iff.1 hdeep⟩
  | ok s =>
    refine .inr ⟨s, ⟨hresult, state_load⟩, fun hdeep ↦ ?_, settings_of_load hresult⟩
    cases hresult.symm.trans (load_fails_iff.2 ⟨rfl, Disk.holds_tooDeep_iff.2 hdeep⟩)

theorem fromUTF8?_toUTF8 (document : String) :
    String.fromUTF8? document.toUTF8 = some document := by
  rw [String.fromUTF8?, String.toUTF8_eq_toByteArray, dif_pos document.isValidUTF8]
  rfl

theorem read_infinite_cache (limit : Nat) (h : 0 < limit) :
    Value.ofBytes limit "\x7b\"vips_cache_max\": Infinity\x7d".toUTF8 =
      .ok (.object [(.ofString "vips_cache_max", .real (.infinite false))]) := by
  have hname : lexeme? "\"vips_cache_max\": Infinity\x7d".toList =
      some (.text (.ofString "vips_cache_max"), ": Infinity\x7d".toList) := by
    simp [lexeme?, scanText?, Text.doubleQuote, Text.backslash, Points.ofString]
  have hinfinity : lexeme? "Infinity\x7d".toList =
      some (.scalar (.real (.infinite false)), "\x7d".toList) := by
    simp [lexeme?, scanWord?, words, List.isPrefixOf, Text.doubleQuote]
  have hlexemes : lexemes "\x7b\"vips_cache_max\": Infinity\x7d".toList =
      [some .openObject, some (.text (.ofString "vips_cache_max")), some .colon,
        some (.scalar (.real (.infinite false))), some .closeObject] := by
    rw [lexemes_of_lexeme? _ "\"vips_cache_max\": Infinity\x7d".toList rfl,
      lexemes_of_lexeme? "\"vips_cache_max\": Infinity\x7d".toList _ hname,
      lexemes_of_lexeme? _ " Infinity\x7d".toList rfl,
      lexemes_of_lexeme? " Infinity\x7d".toList _ hinfinity,
      lexemes_of_lexeme? _ [] rfl, lexemes_nil]
  obtain ⟨limit, rfl⟩ := Nat.exists_eq_add_of_lt h
  rw [Value.ofBytes, fromUTF8?_toUTF8]
  dsimp only
  rw [Value.ofChars, hlexemes]
  rfl

theorem infinity_and_nesting_escape :
    let disk (document : String) : Disk := ⟨[(["settings.json"], .document document.toUTF8)]⟩
    let infinite := disk "\x7b\"vips_cache_max\": Infinity\x7d"
    let decoder : Decoder := {}
    let nested := disk (String.ofList (List.replicate (decoder.maxNesting + 1) '['))
    (∃ s, (load "settings.json").Yields infinite s infinite ∧ s.cacheMax = .error .overflow) ∧
      ((load "settings.json").run nested).result = .error .nestedTooDeep := by
  intro disk infinite decoder nested
  have hfind (document : String) :
      (disk document).find? "settings.json" = some (.document document.toUTF8) := rfl
  constructor
  · refine ⟨⟨[(.ofString "vips_cache_max", .real (.infinite false))]⟩, ?_, ?_⟩
    · have hentry : ∃ record, ofEntry decoder "settings.json"
          (.document "\x7b\"vips_cache_max\": Infinity\x7d".toUTF8) =
            .ok (⟨[(.ofString "vips_cache_max", .real (.infinite false))]⟩, record) := by
        refine ⟨.of .debug category ("settings loaded: " ++ "settings.json"), ?_⟩
        simp only [ofEntry, document, read_infinite_cache decoder.maxNesting (by decide)]
      obtain ⟨record, hentry⟩ := hentry
      unfold Action.Yields
      rw [load_of_entry (hfind _), hentry]
      exact ⟨rfl, rfl⟩
    · simp [cacheMax, get, integerOf, bind, Except.bind]
  · refine load_fails_iff.2 ⟨rfl, Disk.holds_tooDeep_iff.2 ⟨_, _, hfind _, fromUTF8?_toUTF8 _, ?_⟩⟩
    simpa using nestedTooDeep_brackets decoder.maxNesting []

end Settings

end BatchScaler

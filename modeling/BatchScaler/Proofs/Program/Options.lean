import Mathlib.Data.List.TakeWhile
import BatchScaler.Program.Options
import BatchScaler.Proofs.Number.Grammar
import BatchScaler.Proofs.Report.Results

namespace BatchScaler

namespace OptionName

theorem ofFlag?_eq_some_iff {arg : String} {name : OptionName} :
    ofFlag? arg = some name ↔ arg = name.flag := by
  constructor
  · intro h
    have hflag : (name.flag == arg) = true :=
      List.find?_some (p := fun other : OptionName ↦ other.flag == arg) h
    exact (beq_iff_eq.1 hflag).symm
  · rintro rfl
    cases name <;> decide +kernel

theorem equals_not_mem_flag (name : OptionName) : '=' ∉ name.flag.toList := by
  cases name <;> decide +kernel

theorem flag_ne_separator (name : OptionName) : name.flag ≠ "--" := by
  cases name <;> decide +kernel

theorem toList_joined (name : OptionName) (value : String) :
    (name.flag ++ "=" ++ value).toList = name.flag.toList ++ '=' :: value.toList := by
  rw [String.toList_append, String.toList_append, List.append_assoc]
  rfl

theorem ne_joined {arg : String} (h : '=' ∉ arg.toList) (name : OptionName) (value : String) :
    arg ≠ name.flag ++ "=" ++ value := by
  rintro rfl
  rw [toList_joined] at h
  exact h (List.mem_append_right _ List.mem_cons_self)

theorem ofFlag?_joined (name : OptionName) (value : String) :
    ofFlag? (name.flag ++ "=" ++ value) = none := by
  refine Option.eq_none_iff_forall_ne_some.2 fun other h ↦ ?_
  exact ne_joined other.equals_not_mem_flag name value (ofFlag?_eq_some_iff.1 h).symm

theorem inline?_eq_some_iff {arg : String} {name : OptionName} {value : String} :
    inline? arg = some (name, value) ↔ arg = name.flag ++ "=" ++ value := by
  rw [← String.toList_inj, toList_joined]
  constructor
  · intro h
    have hsplit := List.takeWhile_append_dropWhile (p := (· != '=')) (l := arg.toList)
    have hhead := List.head?_dropWhile_not (· != '=') arg.toList
    unfold inline? at h
    cases hrest : arg.toList.dropWhile (· != '=') with
    | nil =>
      rw [hrest] at h
      cases h
    | cons c rest =>
      rw [hrest] at h hsplit hhead
      obtain rfl : c = '=' := by simpa using hhead
      obtain ⟨other, hother, heq⟩ := Option.map_eq_some_iff.1 h
      cases heq
      have hflag := congrArg String.toList (ofFlag?_eq_some_iff.1 hother)
      rw [String.toList_ofList] at hflag
      rw [← hsplit, hflag, String.toList_ofList]
  · intro h
    have hbefore : ∀ c ∈ name.flag.toList, (c != '=') = true := fun c hc ↦
      bne_iff_ne.2 fun heq ↦ equals_not_mem_flag name (heq ▸ hc)
    have hafter : ∀ c, ('=' :: value.toList).head? = some c → (c != '=') = false := by
      rintro c ⟨⟩
      rfl
    obtain ⟨htake, hdrop⟩ := Text.span_append hbefore hafter
    unfold inline?
    rw [h, htake, hdrop]
    simp only [String.ofList_toList, ofFlag?_eq_some_iff.2 rfl, Option.map_some]

end OptionName

namespace Options

def value (o : Options) : OptionName → OptionValue
  | .logLevel => o.logLevel
  | .logCategories => o.logCategories
  | .settings => o.settings

theorem value_set (o : Options) (name other : OptionName) (v : OptionValue) :
    (o.set name v).value other = if other = name then v else o.value other := by
  cases name <;> cases other <;> rfl

theorem eq_of_value {o o' : Options} (h : ∀ name, o.value name = o'.value name) : o = o' := by
  rcases o with ⟨level, categories, settings⟩
  rcases o' with ⟨level', categories', settings'⟩
  rw [mk.injEq]
  exact ⟨h .logLevel, h .logCategories, h .settings⟩

/-- A piece of the command line: a word of the script, or an option with its value in the argument
after it, or with both in one argument. -/
inductive Piece
  | word (arg : String)
  | pair (name : OptionName) (value : String)
  | joined (name : OptionName) (value : String)

namespace Piece

def args : Piece → List String
  | word arg => [arg]
  | pair name value => [name.flag, value]
  | joined name value => [name.flag ++ "=" ++ value]

def words : Piece → List String
  | word arg => [arg]
  | pair .. | joined .. => []

/-- The option that a piece sets. One that is joined with `--` is set to no value. -/
def setting? : Piece → Option (OptionName × OptionValue)
  | word _ => none
  | pair name value => some (name, .text value)
  | joined name value => some (name, if value = "--" then .blank else .text value)

/-- What can stand before the first `--`: any word that is no option, and any option whose value
cannot be taken for one. -/
def Proper : Piece → Prop
  | word arg => arg ≠ "--" ∧
    ∀ name : OptionName, arg ≠ name.flag ∧ ∀ value, arg ≠ name.flag ++ "=" ++ value
  | pair _ value => looksLikeOption value = false
  | joined .. => True

def apply (o : Options) (p : Piece) : Options :=
  match p.setting? with
  | none => o
  | some (name, v) => o.set name v

theorem separator_not_mem {p : Piece} (h : p.Proper) : "--" ∉ p.args := by
  cases p with
  | word arg => exact fun hmem ↦ h.1 (List.mem_singleton.1 hmem).symm
  | pair name value =>
    intro hmem
    rcases List.mem_cons.1 hmem with heq | hmem
    · exact name.flag_ne_separator heq.symm
    · have hseparator : looksLikeOption "--" = true := by decide +kernel
      rw [List.mem_singleton.1 hmem, h] at hseparator
      cases hseparator
  | joined name value =>
    exact fun hmem ↦ OptionName.ne_joined (by decide) name value (List.mem_singleton.1 hmem)

theorem proper_of_mem_words {p : Piece} (h : p.Proper) {arg : String} (harg : arg ∈ p.words) :
    (word arg).Proper := by
  cases p with
  | word other => exact List.mem_singleton.1 harg ▸ h
  | pair | joined => exact absurd harg List.not_mem_nil

end Piece

def lastValue (name : OptionName) (pieces : List Piece) : OptionValue :=
  ((pieces.filterMap Piece.setting?).reverse.lookup name).getD .absent

theorem value_apply (o : Options) (p : Piece) (name : OptionName) :
    (p.apply o).value name = (p.setting?.toList.lookup name).getD (o.value name) := by
  unfold Piece.apply
  cases p.setting? with
  | none => rfl
  | some setting =>
    rw [value_set, Option.toList_some, List.lookup_cons]
    by_cases h : name = setting.1
    · rw [if_pos h, h, beq_self_eq_true]
      rfl
    · rw [if_neg h, beq_eq_false_iff_ne.2 h]
      rfl

theorem value_foldl_apply (pieces : List Piece) (o : Options) (name : OptionName) :
    (pieces.foldl Piece.apply o).value name =
      ((pieces.filterMap Piece.setting?).reverse.lookup name).getD (o.value name) := by
  induction pieces generalizing o with
  | nil => rfl
  | cons p pieces ih =>
    have hsettings : ((p :: pieces).filterMap Piece.setting?).reverse =
        (pieces.filterMap Piece.setting?).reverse ++ p.setting?.toList := by
      rw [List.filterMap_cons]
      cases p.setting? <;> simp
    rw [List.foldl_cons, ih, value_apply, hsettings, List.lookup_append, Option.getD_or]

theorem value_foldl_apply_empty (pieces : List Piece) (name : OptionName) :
    (pieces.foldl Piece.apply {}).value name = lastValue name pieces := by
  rw [value_foldl_apply, lastValue]
  cases name <;> rfl

variable {o o' : Options} {p : Piece} {pieces : List Piece} {args rest words : List String}

theorem splitFrom_piece (h : p.Proper) (o : Options) (rest : List String) :
    splitFrom o (p.args ++ rest) =
      (splitFrom (p.apply o) rest).map fun (o, words) ↦ (o, p.words ++ words) := by
  have hunchanged : ∀ result : Except OptionName (Options × List String),
      result = result.map fun (o, words) ↦ (o, [] ++ words) := fun result ↦ by
    cases result <;> rfl
  cases p with
  | word arg =>
    have hflag : OptionName.ofFlag? arg = none :=
      Option.eq_none_iff_forall_ne_some.2 fun name hname ↦
        (h.2 name).1 (OptionName.ofFlag?_eq_some_iff.1 hname)
    have hinline : OptionName.inline? arg = none :=
      Option.eq_none_iff_forall_ne_some.2 fun (name, value) hname ↦
        (h.2 name).2 value (OptionName.inline?_eq_some_iff.1 hname)
    show splitFrom o (arg :: rest) = _
    rw [splitFrom, if_neg h.1, hflag, hinline]
    rfl
  | pair name value =>
    have hvalue : ¬ looksLikeOption value = true := Bool.eq_false_iff.1 h
    show splitFrom o (name.flag :: value :: rest) = _
    rw [splitFrom, if_neg name.flag_ne_separator, OptionName.ofFlag?_eq_some_iff.2 rfl]
    simp only [if_neg hvalue]
    exact hunchanged _
  | joined name value =>
    show splitFrom o ((name.flag ++ "=" ++ value) :: rest) = _
    rw [splitFrom, if_neg (OptionName.ne_joined (by decide) name value).symm,
      OptionName.ofFlag?_joined, OptionName.inline?_eq_some_iff.2 rfl]
    exact hunchanged _

theorem splitFrom_pieces (h : ∀ p ∈ pieces, p.Proper) (o : Options) (rest : List String) :
    splitFrom o (pieces.flatMap Piece.args ++ rest) =
      (splitFrom (pieces.foldl Piece.apply o) rest).map fun (o, words) ↦
        (o, pieces.flatMap Piece.words ++ words) := by
  induction pieces generalizing o with
  | nil => cases hrest : splitFrom o rest <;> simp [hrest, Except.map]
  | cons p pieces ih =>
    obtain ⟨hp, hpieces⟩ := List.forall_mem_cons.1 h
    rw [List.flatMap_cons, List.append_assoc, splitFrom_piece hp, ih hpieces, List.foldl_cons,
      List.flatMap_cons]
    cases splitFrom (pieces.foldl Piece.apply (p.apply o)) rest with
    | error name => rfl
    | ok result => simp [Except.map]

def IsTail (args : List String) : Prop :=
  ∀ arg, args.head? = some arg → arg = "--"

theorem splitFrom_tail (h : IsTail args) (o : Options) : splitFrom o args = .ok (o, args) := by
  cases args with
  | nil => rw [splitFrom]
  | cons arg rest => rw [splitFrom, if_pos (h arg rfl)]

theorem exists_pieces (h : splitFrom o args = .ok (o', words)) :
    ∃ (pieces : List Piece) (tail : List String), (∀ p ∈ pieces, p.Proper) ∧ IsTail tail ∧
      args = pieces.flatMap Piece.args ++ tail := by
  -- A call of `splitFrom` that goes on to the rest has one piece to put before those of the rest.
  fun_induction splitFrom o args generalizing o' words with
  | case1 o => exact ⟨[], [], by simp, by simp [IsTail], rfl⟩
  | case2 o rest => exact ⟨[], "--" :: rest, by simp, by simp [IsTail], rfl⟩
  | case3 => cases h
  | case4 o arg _ name hflag value rest hvalue ih =>
    obtain ⟨pieces, tail, hproper, htail, rfl⟩ := ih h
    obtain rfl := OptionName.ofFlag?_eq_some_iff.1 hflag
    exact ⟨.pair name value :: pieces, tail,
      List.forall_mem_cons.2 ⟨Bool.eq_false_iff.2 hvalue, hproper⟩, htail, rfl⟩
  | case5 => cases h
  | case6 o arg rest _ name value hinline hflag ih =>
    obtain ⟨pieces, tail, hproper, htail, rfl⟩ := ih h
    obtain rfl := OptionName.inline?_eq_some_iff.1 hinline
    exact ⟨.joined name value :: pieces, tail, List.forall_mem_cons.2 ⟨trivial, hproper⟩, htail,
      rfl⟩
  | case7 o arg rest hseparator hinline hflag ih =>
    obtain ⟨⟨o₁, words₁⟩, hrest, -⟩ := Except.map_eq_ok_iff.1 h
    obtain ⟨pieces, tail, hproper, htail, rfl⟩ := ih hrest
    refine ⟨.word arg :: pieces, tail, List.forall_mem_cons.2 ⟨⟨hseparator, fun name ↦ ⟨?_, ?_⟩⟩,
      hproper⟩, htail, rfl⟩
    · intro heq
      rw [OptionName.ofFlag?_eq_some_iff.2 heq] at hflag
      cases hflag
    · intro value heq
      rw [OptionName.inline?_eq_some_iff.2 heq] at hinline
      cases hinline

/-- A command line, split at the first `--`: the pieces before it, and what is made of them. -/
structure TakesOut (args : List String) (o : Options) (words : List String) (pieces : List Piece) :
    Prop where
  proper : ∀ p ∈ pieces, p.Proper
  args_eq : args.takeWhile (· != "--") = pieces.flatMap Piece.args
  words_eq : words = pieces.flatMap Piece.words ++ args.dropWhile (· != "--")
  value_eq : ∀ name, o.value name = lastValue name pieces

theorem span_separator {tail : List String} (h : ∀ p ∈ pieces, p.Proper) (htail : IsTail tail) :
    (pieces.flatMap Piece.args ++ tail).takeWhile (· != "--") = pieces.flatMap Piece.args ∧
      (pieces.flatMap Piece.args ++ tail).dropWhile (· != "--") = tail := by
  have hpieces : ∀ arg ∈ pieces.flatMap Piece.args, (arg != "--") = true := by
    intro arg harg
    obtain ⟨p, hp, hmem⟩ := List.mem_flatMap.1 harg
    rw [bne_iff_ne]
    rintro rfl
    exact Piece.separator_not_mem (h p hp) hmem
  rw [List.takeWhile_append_of_pos hpieces, List.dropWhile_append_of_pos hpieces]
  cases tail with
  | nil => simp
  | cons arg rest => simp [htail arg rfl]

theorem isTail_dropWhile (args : List String) : IsTail (args.dropWhile (· != "--")) := by
  intro arg harg
  have hhead := List.head?_dropWhile_not (· != "--") args
  rw [harg] at hhead
  simpa using hhead

theorem split_eq_ok_iff :
    split args = .ok (o, words) ↔ ∃ pieces, TakesOut args o words pieces := by
  constructor
  · intro h
    obtain ⟨pieces, tail, hproper, htail, rfl⟩ := exists_pieces h
    obtain ⟨htake, hdrop⟩ := span_separator hproper htail
    rw [split, splitFrom_pieces hproper, splitFrom_tail htail] at h
    cases h
    exact ⟨pieces, hproper, htake, by rw [hdrop], value_foldl_apply_empty pieces⟩
  · rintro ⟨pieces, h⟩
    have hargs := List.takeWhile_append_dropWhile (p := (· != "--")) (l := args)
    rw [h.args_eq] at hargs
    rw [split, ← hargs, splitFrom_pieces h.proper, splitFrom_tail (isTail_dropWhile args),
      h.words_eq]
    have hoptions : pieces.foldl Piece.apply {} = o := eq_of_value fun name ↦
      (value_foldl_apply_empty pieces name).trans (h.value_eq name).symm
    rw [hoptions]
    rfl

theorem splitFrom_words {tail : List String} (h : ∀ arg ∈ words, (Piece.word arg).Proper)
    (htail : IsTail tail) (o : Options) : splitFrom o (words ++ tail) = .ok (o, words ++ tail) := by
  induction words with
  | nil => exact splitFrom_tail htail o
  | cons arg words ih =>
    obtain ⟨harg, hwords⟩ := List.forall_mem_cons.1 h
    have hrest := splitFrom_piece harg o (words ++ tail)
    rw [Piece.apply, Piece.setting?, ih hwords] at hrest
    exact hrest

theorem split_words (h : split args = .ok (o, words)) : split words = .ok ({}, words) := by
  obtain ⟨pieces, hpieces⟩ := split_eq_ok_iff.1 h
  rw [hpieces.words_eq]
  refine splitFrom_words (fun arg harg ↦ ?_) (isTail_dropWhile args) {}
  obtain ⟨p, hp, hmem⟩ := List.mem_flatMap.1 harg
  exact Piece.proper_of_mem_words (hpieces.proper p hp) hmem

/-- The words that are left do not depend on the options that came before. -/
theorem splitFrom_of_other (h : splitFrom o args = .ok (o', words)) (other : Options) :
    ∃ other', splitFrom other args = .ok (other', words) := by
  obtain ⟨pieces, tail, hproper, htail, rfl⟩ := exists_pieces h
  rw [splitFrom_pieces hproper, splitFrom_tail htail] at h ⊢
  cases h
  exact ⟨_, rfl⟩

/-- A piece that leaves nothing may be put behind any complete arguments. -/
theorem split_insert {before after words₀ : List String} {o₀ : Options}
    (hseparator : "--" ∉ before) (hbefore : split before = .ok (o₀, words₀))
    (h : split (before ++ after) = .ok (o, words)) (hproper : p.Proper) (hwords : p.words = []) :
    ∃ o', split (before ++ p.args ++ after) = .ok (o', words) := by
  obtain ⟨pieces, tail, hpieces, htail, rfl⟩ := exists_pieces hbefore
  obtain rfl : tail = [] := by
    cases tail with
    | nil => rfl
    | cons arg rest =>
      obtain rfl := htail arg rfl
      exact absurd (List.mem_append_right _ List.mem_cons_self) hseparator
  rw [List.append_nil] at h ⊢
  -- What follows is split alike from the options before it, and from those with `p` among them.
  rw [split, splitFrom_pieces hpieces] at h
  obtain ⟨⟨o₁, words₁⟩, hafter, heq⟩ := Except.map_eq_ok_iff.1 h
  cases heq
  obtain ⟨o₂, hinserted⟩ := splitFrom_of_other hafter (p.apply (pieces.foldl Piece.apply {}))
  refine ⟨o₂, ?_⟩
  rw [split, List.append_assoc, splitFrom_pieces hpieces, splitFrom_piece hproper, hinserted,
    hwords]
  rfl

/-- Options are taken out of a command line wherever they stand before the first `--`, and nothing
else is: what is left is left again, and does not depend on the options put between the words. -/
theorem takes_out_options :
    (∀ args o words, split args = .ok (o, words) ↔ ∃ pieces, TakesOut args o words pieces) ∧
    (∀ args o words, split args = .ok (o, words) → split words = .ok ({}, words)) ∧
    ∀ before after o₀ words₀ o words, "--" ∉ before → split before = .ok (o₀, words₀) →
      split (before ++ after) = .ok (o, words) → ∀ (name : OptionName) value,
        (looksLikeOption value = false →
          ∃ o', split (before ++ [name.flag, value] ++ after) = .ok (o', words)) ∧
        ∃ o', split (before ++ [name.flag ++ "=" ++ value] ++ after) = .ok (o', words) := by
  refine ⟨fun args o words ↦ split_eq_ok_iff, fun args o words ↦ split_words, ?_⟩
  intro before after o₀ words₀ o words hseparator hbefore h name value
  constructor
  · intro hvalue
    exact split_insert (p := .pair name value) hseparator hbefore h hvalue rfl
  · exact split_insert (p := .joined name value) hseparator hbefore h trivial rfl

/-- Options between the words, one of them twice, and after `--` a word that is none. -/
theorem takes_out_options_between_words :
    (∃ pieces, TakesOut ["/load", "--log-level=x y", "a", "--log-level", "-1", "--", "--settings"]
      { logLevel := .text "-1" } ["/load", "a", "--", "--settings"] pieces) ∧
    split ["/load", "a", "--", "--settings"] = .ok ({}, ["/load", "a", "--", "--settings"]) ∧
    ∃ o', split ["/load", "--settings", "--a b", "a", "--", "--settings"] =
      .ok (o', ["/load", "a", "--", "--settings"]) := by
  obtain ⟨hpieces, hagain, hinsert⟩ := takes_out_options
  have hsplit :
      split ["/load", "--log-level=x y", "a", "--log-level", "-1", "--", "--settings"] =
        .ok ({ logLevel := .text "-1" }, ["/load", "a", "--", "--settings"]) := by
    decide +kernel
  have hwords := hagain _ _ _ hsplit
  refine ⟨(hpieces _ _ _).1 hsplit, hwords, ?_⟩
  exact (hinsert ["/load"] ["a", "--", "--settings"] {} ["/load"] {} _ (by decide)
    (by decide +kernel) hwords .settings "--a b").1 (by decide +kernel)

/-- An option that is joined with `--` is set, but to no value. -/
theorem joined_separator_is_dropped :
    ∃ o words, split [OptionName.settings.flag ++ "=" ++ "--"] = .ok (o, words) ∧
      o.settings ≠ .text "--" ∧ o.settings ≠ .absent :=
  ⟨{ settings := .blank }, [], by decide +kernel, by decide, by decide⟩

end Options

end BatchScaler

import BatchScaler.Report.Action
import BatchScaler.Report.Logger
import BatchScaler.Settings.Reader
import BatchScaler.Storage.Disk

namespace BatchScaler

structure Settings where
  members : List (Points × Value) := []

structure Environment where
  log : LogOptions := {}
  settings : String := ""
  home : String := "/nonexistent-home"
  deriving DecidableEq, Repr

def withoutFinalSlashes (directory : String) : String :=
  String.ofList (directory.toList.reverse.dropWhile (· == '/')).reverse

def Environment.settingsPath (e : Environment) : String :=
  let path := Text.trim e.settings
  if path = "" then withoutFinalSlashes e.home ++ "/.image_resizer/settings.json" else path

/-- What reading a document leaves to its decoder: how many lists and objects may be open at a time,
which depends on the interpreter and on its callers, and the text of the decoder's own error. The
values that are given here stand in for both. What was read is taken to be shown at any depth. -/
structure Decoder where
  maxNesting : Nat := 1000
  complaint : Entry → String := fun _ => "not a document"

namespace Settings

def category : String := "settings"

def failureText : String := "settings load failed: "

inductive LoadFailure
  | unreadable
  | malformed
  deriving DecidableEq, Repr

def LoadFailure.text (path complaint : String) : LoadFailure → String
  | unreadable => "[Errno 21] Is a directory: " ++ Text.quoted path
  | malformed => complaint

/-- What stands in a file. A picture is no document, and no more is nothing at all. -/
def document : Entry → Except LoadFailure ByteArray
  | .directory => .error .unreadable
  | .device => .error .malformed
  | .document content => .ok content
  | .picture _ _ => .error .malformed

/-- Reads settings from an entry of the disk. Whatever it holds, there are settings afterwards, and
a message says what became of it; only a document that is nested too deeply is not coped with. -/
def ofEntry (decoder : Decoder) (path : String) (e : Entry) :
    Except Fault (Settings × LogRecord) :=
  let failed (failure : LoadFailure) : Settings × LogRecord :=
    ({}, .of .warning category (failureText ++ failure.text path (decoder.complaint e)))
  match document e with
  | .error failure => .ok (failed failure)
  | .ok bytes =>
    match Value.ofBytes decoder.maxNesting bytes with
    | .ok (.object members) => .ok (⟨members⟩, .of .debug category ("settings loaded: " ++ path))
    | .ok _ => .ok ({}, .of .warning category ("settings file is not an object: " ++ path))
    | .error .malformed => .ok (failed .malformed)
    | .error .tooDeep => .error .nestedTooDeep

def load (path : String) (decoder : Decoder := {}) : Action LogRecord Disk Settings := do
  match ← Action.read (·.find? path) with
  | none => return {}
  | some e =>
    let (settings, record) ← Action.ofExcept (ofEntry decoder path e)
    Action.report record
    return settings

variable {σ : Type} (s : Settings)

def default? (key : Points) : Option Value :=
  [(Points.ofString "error_output", Value.text (.ofString "console")),
    (Points.ofString "program_name", Value.text (.ofString "image-resizer")),
    (Points.ofString "vips_cache_max", Value.integer 0)].lookup key

/-- The value of a key, else the default that is given, else the program's default. A value that is
there counts even if it is null, a default that is null does not. -/
def get (key : Points) (default : Value) : Value :=
  match s.members.lookup key, default with
  | some value, _ => value
  | none, .null => (default? key).getD .null
  | none, default => default

def errorOutputs : List String := ["console", "dialog"]

def errorOutput : Action LogRecord σ String := do
  let value := s.get (.ofString "error_output") .null
  let name? : Option String :=
    match value with
    | .text points =>
      points.toChars?.map fun cs => Text.lowerAscii (String.ofList (Text.trimChars cs))
    | _ => none
  match name?.filter errorOutputs.contains with
  | some name => return name
  | none =>
    Action.report (.of .warning category
      ("unknown error_output " ++ value.shown ++ ", using console"))
    return "console"

def programName : Points :=
  match s.get (.ofString "program_name") .null with
  | .text (point :: points) => point :: points
  | _ => .ofString "image-resizer"

/-- The integer that a value denotes, 0 if it denotes none. An infinity is too large. -/
def integerOf : Value → Except Fault Int
  | .boolean b => .ok (if b then 1 else 0)
  | .integer n => .ok n
  | .real (.infinite _) => .error .overflow
  | .real x => .ok (x.truncate?.getD 0)
  | .text points => .ok ((points.toChars?.bind Numeral.grouped?).getD 0)
  | _ => .ok 0

def cacheMax : Except Fault Int := do
  let n ← integerOf (s.get (.ofString "vips_cache_max") .null)
  return max 0 n

end Settings

end BatchScaler

import BatchScaler.Report.Log
import BatchScaler.Text.Blank
import BatchScaler.Text.Parts
import BatchScaler.Text.Upper

namespace BatchScaler

/-- Writes records to a stream, all of them or those of some categories. -/
structure LogHandler where
  stream : String
  categories : Option (List String)
  deriving DecidableEq, Repr

/-- The logger. Level 0 leaves the decision to the default level. -/
structure Logger where
  level : Int := 0
  handlers : List LogHandler := []
  deriving DecidableEq, Repr

/-- What the environment says about logging. A variable that is not set counts as an empty text. -/
structure LogOptions where
  level : Option String := none
  categories : Option String := none
  deriving DecidableEq, Repr

def loggerName : String := "image_resizer"

/-- The full name of a category; the empty category is the logger itself. -/
def categoryName (category : String) : String :=
  if category = "" then loggerName else loggerName ++ "." ++ category

def lastComponent (name : String) : String :=
  String.ofList (Text.afterLast '.' name.toList)

def LogHandler.admits (h : LogHandler) (category : String) : Bool :=
  match h.categories with
  | none => true
  | some categories => categories.contains (lastComponent (categoryName category))

namespace LogOptions

def severity? (o : LogOptions) : Option Severity :=
  Severity.all.find? fun s =>
    Text.lowerAscii s.label == Text.lowerAscii (Text.trim (o.level.getD ""))

def allowed (o : LogOptions) : Option (List String) :=
  let categories := o.categories.getD ""
  if Text.trim categories = "" then none
  else
    some (((Text.partsBetween ',' categories.toList).map Text.trimChars).filterMap fun part =>
      if part.isEmpty then none else some (String.ofList part))

end LogOptions

namespace Logger

variable (l : Logger)

def defaultLevel : Int := Severity.warning.level

/-- Sets the level and what the stream's handler admits. The environment's level comes before the
level asked for. -/
def configure (options : LogOptions) (stream : String) (level : Int) : Logger :=
  let handler : LogHandler := ⟨stream, options.allowed⟩
  { level := (options.severity?.map Severity.level).getD level
    handlers :=
      if l.handlers.any (·.stream == stream) then
        l.handlers.map fun h => if h.stream = stream then handler else h
      else l.handlers ++ [handler] }

def levelOf (category : String) : Int :=
  if category = "" then l.level else 0

def threshold : Int :=
  if l.level = 0 then defaultLevel else l.level

/-- Whether records of a level pass. Levels that are not positive never do. -/
def passes (level : Int) : Bool :=
  0 < level && l.threshold ≤ level

def streams (r : LogRecord) : List String :=
  if l.passes r.level then (l.handlers.filter (·.admits r.category)).map (·.stream) else []

def written (clock stream : String) (r : LogRecord) : String :=
  String.join ((l.streams r).filter (· == stream) |>.map fun _ => r.line clock)

end Logger

end BatchScaler

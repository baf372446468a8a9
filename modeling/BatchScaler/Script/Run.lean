import BatchScaler.Script.Dimensions
import BatchScaler.Script.FilterSpec
import BatchScaler.Script.Saving
import BatchScaler.Script.Statement

namespace BatchScaler

namespace Session

variable {σ ι κ : Type} (s : Session σ ι κ)

def usageFailure : Action (Event ι) σ (Flow ι) := do
  s.showHelp
  return .halt .failed

def refuse (notice : Notice) : Action (Event ι) σ (Flow ι) := do
  Action.report (.notice notice)
  return .halt .failed

def resizeLine (dimensions : Dimensions) (spec : FilterSpec) : String :=
  toString dimensions.width ++ " " ++ toString dimensions.height ++ " " ++
    toString spec.repeats ++ " " ++ spec.name ++ "\n"

def resizeImage (dimensions : Dimensions) (spec : FilterSpec) (image : ι) :
    Action (Event ι) σ (Flow ι) := do
  Action.report (.output (resizeLine dimensions spec))
  match s.registry.resolve spec.name with
  | none => refuse (.unknownFilter spec.name)
  | some f =>
    let image ← s.applyTimes f ⟨dimensions.width, dimensions.height⟩ spec.repeats image
    return .next (some image)

/-- Carries out a resize. Both operands are read before the buffer is looked at. -/
def resize (dimensions filter : String) (buffer : Option ι) : Action (Event ι) σ (Flow ι) := do
  match ← Action.ofExcept (Dimensions.parse dimensions) with
  | .error rejection =>
    log .debug "handlers" ("resize rejected: " ++ rejection.message)
    s.usageFailure
  | .ok dimensions =>
    let spec ← Action.ofExcept (FilterSpec.parse filter)
    match buffer with
    | none => refuse .nothingToResize
    | some image => s.resizeImage dimensions spec image

def exit (ignored : Nat) : Action (Event ι) σ (Flow ι) := do
  if 0 < ignored then
    log .debug "handlers" ("exit: " ++ toString ignored ++ " token(s) ignored")
  return .halt .done

def perform (request : Request) (buffer : Option ι) : Action (Event ι) σ (Flow ι) :=
  match request with
  | .load path => do
    let image ← s.load path
    return .next (some image)
  | .resize dimensions filter => s.resize dimensions filter buffer
  | .save path => do
    if ← s.save path buffer then return .next buffer else return .halt .failed
  | .exit ignored => exit ignored
  | .incomplete => s.usageFailure

def refuseCommand (command : String) : Action (Event ι) σ (Flow ι) := do
  log .warning "dispatcher" ("unknown directive: " ++ command)
  s.showHelp
  return .halt .unknownCommand

def executeRequest (st : Statement) (request : Request) (buffer : Option ι) :
    Action (Event ι) σ (Flow ι) := do
  log .debug "dispatcher"
    ("directive " ++ st.command ++ " (" ++ toString st.left ++ " token(s) left)")
  let flow ← s.perform request buffer
  Action.report (.stepped st.command flow st.leftAfter)
  match flow with
  | .next _ => pure ()
  | .halt status =>
    log .debug "dispatcher" ("halt after " ++ st.command ++ ": code=" ++ toString status.code)
  return flow

def execute (st : Statement) (buffer : Option ι) : Action (Event ι) σ (Flow ι) :=
  match st.request with
  | none => s.refuseCommand st.command
  | some request => s.executeRequest st request buffer

/-- Carries out statements from a buffer on, until one of them halts. -/
def executeAll (buffer : Option ι) : List Statement → Action (Event ι) σ (Flow ι)
  | [] => return .next buffer
  | st :: rest => do
    match ← s.execute st buffer with
    | .next buffer => executeAll buffer rest
    | .halt status => return .halt status

/-- Runs statements from a buffer on; to run out of them is to be done. -/
def runFrom (buffer : Option ι) (statements : List Statement) : Action (Event ι) σ ExitStatus := do
  let flow ← s.executeAll buffer statements
  return flow.status

def runTokens (tokens : List Token) : Action (Event ι) σ ExitStatus :=
  s.runFrom none (script ⟨tokens⟩)

end Session

end BatchScaler

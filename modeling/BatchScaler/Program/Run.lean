import BatchScaler.Program.Options
import BatchScaler.Program.Transcript
import BatchScaler.Script.Run
import BatchScaler.Service.Files
import BatchScaler.Settings.Basic

namespace BatchScaler

namespace Session

variable {σ ι κ : Type} (s : Session σ ι κ)

def runGuarded (tokens : List Token) : Action (Event ι) σ ExitStatus :=
  (do
    let status ← s.runTokens tokens
    log .debug "main" ("exit code " ++ toString status.code)
    return status).recover fun fault =>
  match fault with
  | .io path reason => do
    let notice := Notice.ioFailure path reason
    log .error "main" ("aborted: " ++ notice.message)
    Action.report (.notice notice)
    return .failed
  | fault => .fail fault

end Session

structure Machine where
  engine : Engine
  profile : EngineProfile := {}
  clock : String

inductive Ending
  | exit (status : ExitStatus)
  /-- An option lacks its value. -/
  | misused
  | fault (fault : Fault)
  deriving DecidableEq, Repr

structure ProgramReport where
  ending : Ending
  transcript : Transcript
  environment : Environment
  metrics : Metrics
  disk : Disk

namespace Environment

def withLogLevel (level : String) (e : Environment) : Environment :=
  { e with log.level := some level }

def withLogCategories (categories : String) (e : Environment) : Environment :=
  { e with log.categories := some categories }

/-- Sets a variable of the environment to the value of an option, if that value counts. A variable
cannot hold a NUL. -/
def setVariable (set : String → Environment → Environment) (value : OptionValue) :
    Action LogRecord Environment Unit :=
  match value.nonempty? with
  | none => return ()
  | some text => if text.toList.contains '\x00' then .fail .nulInVariable else .update (set text)

def setLogOptions (o : Options) : Action LogRecord Environment Unit := do
  setVariable withLogLevel o.logLevel
  setVariable withLogCategories o.logCategories

end Environment

def prepareRun (machine : Machine) (decoder : Decoder) (settingsPath : String) :
    Action LogRecord Disk (Notifier × Session Disk Picture Method) := do
  let settings ← Settings.load settingsPath decoder
  let errorOutput ← settings.errorOutput
  let cacheMax ← Action.ofExcept settings.cacheMax
  FileService.checkInteger cacheMax
  return (.ofName errorOutput,
    { service := FileService.service machine.engine machine.profile
      registry := defaultRegistry
      program := settings.programName.toText })

namespace Ending

def ofResult : Except Fault ExitStatus → Ending
  | .ok status => exit status
  | .error cause => fault cause

end Ending

def runScript (machine : Machine) (decoder : Decoder) (environment : Environment)
    (settings : OptionValue) (words : List String) (disk : Disk) : ProgramReport :=
  let display : Display :=
    { logger := ({} : Logger).configure environment.log Display.errorStream Severity.info.level
      clock := machine.clock }
  let prepared :=
    (prepareRun machine decoder (settings.nonempty?.getD environment.settingsPath)).run disk
  let transcript := prepared.events.foldl (fun t r => display.showSignal t (.log r)) {}
  match prepared.result with
  | .error fault => ⟨.fault fault, transcript, environment, {}, prepared.state⟩
  | .ok (notifier, session) =>
    let run := (session.runGuarded (words.map some)).run prepared.state
    { ending := .ofResult run.result
      transcript := { display with notifier := notifier }.showEvents transcript run.events
      environment := environment
      metrics := Event.measureAll {} run.events
      disk := run.state }

def runProgram (machine : Machine) (environment : Environment) (args : List String) (disk : Disk)
    (decoder : Decoder := {}) : ProgramReport :=
  match Options.split args with
  | .error name => ⟨.misused, { errors := Options.usageError name }, environment, {}, disk⟩
  | .ok (options, words) =>
    let prepared := (Environment.setLogOptions options).run environment
    match prepared.result with
    | .error fault => ⟨.fault fault, {}, prepared.state, {}, disk⟩
    | .ok () => runScript machine decoder prepared.state options.settings words disk

end BatchScaler

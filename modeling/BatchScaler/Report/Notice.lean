import BatchScaler.Report.Log

namespace BatchScaler

inductive Notice
  | nothingToResize
  | nothingToSave
  | unknownFilter (name : String)
  | missingEncoder (mime : String)
  | ioFailure (path reason : String)
  deriving DecidableEq, Repr

namespace Notice

def title : Notice → String
  | nothingToResize => "Nothing to resize"
  | nothingToSave => "Nothing to save"
  | unknownFilter _ => "Unknown filter"
  | missingEncoder _ => "No JPEG support"
  | ioFailure _ _ => "Image I/O failed"

def message : Notice → String
  | nothingToResize => "There is no image loaded that could be resized."
  | nothingToSave => "There is no image loaded that could be saved."
  | unknownFilter name => "Unknown filter: " ++ name
  | missingEncoder mime => "No encoder available for " ++ mime
  | ioFailure path reason => path ++ ": " ++ reason

end Notice

inductive Notifier
  | console
  | dialog
  deriving DecidableEq, Repr

inductive Signal
  | log (record : LogRecord)
  | text (text : String)
  | application
  | box (title message : String)
  deriving DecidableEq, Repr

namespace Notifier

def ofName (name : String) : Notifier :=
  if name = "dialog" then dialog else console

/-- What showing a notice does, where `running` says whether an application is running. -/
def signals (n : Notifier) (running : Bool) (title message : String) : List Signal :=
  let text := title ++ ": " ++ message
  match n with
  | console => [.log (.of .debug "notify" text), .text (text ++ "\n")]
  | dialog =>
    [.log (.of .error "notify" text)] ++ (if running then [] else [.application]) ++
      [.box title message]

def runningAfter (n : Notifier) (running : Bool) : Bool :=
  running || n == dialog

def signalsOf (n : Notifier) (running : Bool) : List (String × String) → List Signal
  | [] => []
  | (title, message) :: rest =>
    n.signals running title message ++ n.signalsOf (n.runningAfter running) rest

end Notifier

end BatchScaler

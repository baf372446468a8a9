import BatchScaler.Report.Logger
import BatchScaler.Report.Notice
import BatchScaler.Script.Event

namespace BatchScaler

structure Transcript where
  output : String := ""
  errors : String := ""
  dialogs : List Signal := []
  /-- Whether an application for message boxes is running. -/
  running : Bool := false
  deriving DecidableEq, Repr

structure Display where
  logger : Logger
  notifier : Notifier := .console
  clock : String
  deriving DecidableEq, Repr

namespace Display

def errorStream : String := "stderr"

variable {ι : Type} (d : Display)

def showSignal (t : Transcript) : Signal → Transcript
  | .log record =>
    { t with errors := t.errors ++ d.logger.written d.clock errorStream record }
  | .text text => { t with errors := t.errors ++ text }
  | .application => { t with dialogs := t.dialogs ++ [.application], running := true }
  | .box title message => { t with dialogs := t.dialogs ++ [.box title message] }

def showEvent (t : Transcript) : Event ι → Transcript
  | .log record => d.showSignal t (.log record)
  | .output text => { t with output := t.output ++ text }
  | .notice notice =>
    (d.notifier.signals t.running notice.title notice.message).foldl d.showSignal t
  | _ => t

def showEvents (t : Transcript) (events : List (Event ι)) : Transcript :=
  events.foldl d.showEvent t

end Display

end BatchScaler

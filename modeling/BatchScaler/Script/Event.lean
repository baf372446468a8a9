import BatchScaler.Filter.Step
import BatchScaler.Report.Metrics
import BatchScaler.Report.Notice

namespace BatchScaler

inductive ExitStatus
  | done
  | unknownCommand
  | failed
  deriving DecidableEq, Repr

def ExitStatus.code : ExitStatus → Nat
  | done => 0
  | unknownCommand => 1
  | failed => 2

/-- What follows a statement: the next one, with the image that is in the buffer then, or the end of
the run. -/
inductive Flow (ι : Type)
  | next (buffer : Option ι)
  | halt (status : ExitStatus)
  deriving DecidableEq, Repr

def Flow.status {ι : Type} : Flow ι → ExitStatus
  | next _ => .done
  | halt status => status

inductive Event (ι : Type)
  | log (record : LogRecord)
  | output (text : String)
  | notice (notice : Notice)
  | load (path : String)
  | applyFilter (image : ι) (filter : String) (requested : Size) (xMode yMode : EdgeMode)
  | save (path : String) (image : ι)
  | hasEncoder (mime : String)
  | saveWithQuality (path : String) (image : ι) (mime : String) (quality : Nat)
  | timed (key : String)
  | counted (key : String)
  /-- A statement was carried out; `left` tokens are left. -/
  | stepped (command : String) (flow : Flow ι) (left : Nat)
  deriving DecidableEq, Repr

namespace Event

variable {ι : Type}

def measure (m : Metrics) : Event ι → Metrics
  | timed key => m.time key
  | counted key => m.increment key 1
  | _ => m

def measureAll (m : Metrics) (events : List (Event ι)) : Metrics :=
  events.foldl measure m

end Event

end BatchScaler

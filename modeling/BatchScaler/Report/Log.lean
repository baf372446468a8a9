
namespace BatchScaler

inductive Severity
  | debug
  | info
  | warning
  | error
  | critical
  deriving DecidableEq, Repr

namespace Severity

def level : Severity → Int
  | debug => 10
  | info => 20
  | warning => 30
  | error => 40
  | critical => 50

def label : Severity → String
  | debug => "DEBUG"
  | info => "INFO"
  | warning => "WARNING"
  | error => "ERROR"
  | critical => "CRITICAL"

def all : List Severity :=
  [debug, info, warning, error, critical]

end Severity

def levelLabel (level : Int) : String :=
  if level = 0 then "NOTSET"
  else
    match Severity.all.find? (·.level == level) with
    | some severity => severity.label
    | none => "Level " ++ toString level

structure LogRecord where
  category : String
  level : Int
  text : String
  deriving DecidableEq, Repr

namespace LogRecord

def of (severity : Severity) (category text : String) : LogRecord :=
  ⟨category, severity.level, text⟩

def line (clock : String) (r : LogRecord) : String :=
  "[" ++ clock ++ "] " ++ levelLabel r.level ++ ": " ++ r.text ++ "\n"

end LogRecord

end BatchScaler

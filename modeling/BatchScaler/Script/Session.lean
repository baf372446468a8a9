import BatchScaler.Script.Event
import BatchScaler.Script.Help
import BatchScaler.Service.Basic

namespace BatchScaler

structure Session (σ ι κ : Type) where
  service : ImageService σ ι κ
  registry : Registry κ
  program : String := "image-resizer"

namespace Session

variable {σ ι κ α : Type} (s : Session σ ι κ)

def log (severity : Severity) (category text : String) : Action (Event ι) σ Unit :=
  .report (.log (.of severity category text))

def ask (event : Event ι) (request : Action LogRecord σ α) : Action (Event ι) σ α := do
  Action.report event
  request.mapEvents .log

def showHelp : Action (Event ι) σ Unit :=
  .report (.output (helpOutput s.program s.registry.names))

def load (path : String) : Action (Event ι) σ ι :=
  ask (.load path) (s.service.load path)

def durationKey : String := "resize.filter_duration"

def appliedKey : String := "resize.filter_applied"

/-- How a resize reads pixels beyond the edge, on both axes. -/
def resizeEdge : EdgeMode := .constantExtension

/-- Applies a filter. Its duration is taken in any case, an application that succeeded is counted. -/
def applyOnce (f : NamedFilter κ) (requested : Size) (image : ι) : Action (Event ι) σ ι := do
  let result ← (ask (.applyFilter image f.name requested resizeEdge resizeEdge)
    (s.service.applyFilter image f requested resizeEdge resizeEdge)).thenReport (.timed durationKey)
  Action.report (.counted appliedKey)
  return result

def applyTimes (f : NamedFilter κ) (requested : Size) : Nat → ι → Action (Event ι) σ ι
  | 0, image => return image
  | n + 1, image => do
    let image ← s.applyOnce f requested image
    applyTimes f requested n image

end Session

end BatchScaler

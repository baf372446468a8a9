import BatchScaler.Filter.Registry
import BatchScaler.Report.Action
import BatchScaler.Report.Log

namespace BatchScaler

/-- A service for images `ι` and filters `κ` with a state `σ` of its own. -/
structure ImageService (σ ι κ : Type) where
  load : (path : String) → Action LogRecord σ ι
  /-- Applies a filter; a requested side of 0 follows from the other side. -/
  applyFilter : ι → NamedFilter κ → (requested : Size) → (xMode yMode : EdgeMode) →
    Action LogRecord σ ι
  save : ι → (path : String) → Action LogRecord σ Unit
  hasEncoder : (mime : String) → Action LogRecord σ Bool
  saveWithQuality : ι → (path mime : String) → (quality : Nat) → Action LogRecord σ Unit

end BatchScaler

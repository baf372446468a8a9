import BatchScaler.Filter.KernelPlan
import BatchScaler.Filter.Registry
import BatchScaler.Picture.Basic
import BatchScaler.Report.Action
import BatchScaler.Report.Log

namespace BatchScaler

/-- The colours that kernels compute, for pixels of any number of bands. -/
abbrev Engine : Type :=
  (bands : Nat) → Interpolator (Pixel bands)

def nearestEngine : Engine :=
  fun _ => .nearestPixel

def Size.text (s : Size) : String :=
  toString s.width ++ "x" ++ toString s.height

namespace Picture

variable {σ : Type} (engine : Engine) (name : String) (requested : Size) (xMode yMode : EdgeMode)

def resample (kernel : Kernel) (p : Picture) : Action LogRecord σ Picture := do
  let aim ← Action.ofExcept (Aim.of p.size requested)
  Action.report (.of .debug "filters" (name ++ ": " ++ p.size.text ++ " -> " ++ aim.target.text ++
    " (kernel=" ++ kernel.name ++ ")"))
  let raster ← Action.ofExcept (p.raster.resampleTo (engine p.bands) kernel aim xMode yMode)
  return ⟨p.bands, raster, p.origin⟩

def enlarge (scaler : Scaler) (p : Picture) : Action LogRecord σ Picture := do
  let target ← Action.ofExcept (resolveSize (p.raster.naturalSize scaler) requested)
  Action.report (.of .debug "pixel_art" (name ++ ": " ++ p.size.text ++ " -> " ++ target.text))
  let raster ← Action.ofExcept (p.raster.enlargeTo (engine p.bands) scaler target xMode yMode)
  return ⟨p.bands, raster, none⟩

end Picture

def NamedFilter.apply {σ : Type} (engine : Engine) (f : NamedFilter Method) (requested : Size)
    (xMode yMode : EdgeMode) (p : Picture) : Action LogRecord σ Picture :=
  match f.method with
  | .kernel kernel => p.resample engine f.name requested xMode yMode kernel
  | .pixelArt scaler => p.enlarge engine f.name requested xMode yMode scaler

end BatchScaler

import BatchScaler.Filter.Fit

namespace BatchScaler

def kernelMargin : Nat := 3

structure Aim where
  target : Size
  horizontal : Scale
  vertical : Scale
  deriving DecidableEq, Repr

def Aim.of (size requested : Size) : Except Fault Aim := do
  let target ← resolveSize size requested
  let horizontal ← Scale.between target.width size.width
  let vertical ← Scale.between target.height size.height
  return ⟨target, horizontal, vertical⟩

/-- The requests that resample an image of the given size, where `resized` says what size comes of
a resize. -/
def kernelSteps (kernel : Kernel) (size : Size) (aim : Aim) (xMode yMode : EdgeMode)
    (resized : Scale → Scale → Size → Except Fault Size) : Except Fault (List Step) := do
  let padding := padSteps size kernelMargin kernelMargin xMode yMode
  let padded : Size := ⟨size.width + 2 * kernelMargin, size.height + 2 * kernelMargin⟩
  let size ← resized aim.horizontal aim.vertical padded
  let left ← aim.horizontal.resizedMargin kernelMargin
  let top ← aim.vertical.resizedMargin kernelMargin
  return padding ++ [.resize aim.horizontal aim.vertical kernel] ++
    fitSteps size aim.target left top

def Raster.resampleTo {α : Type} (e : Interpolator α) (kernel : Kernel) (aim : Aim)
    (xMode yMode : EdgeMode) (r : Raster α) : Except Fault (Raster α) := do
  let steps ← kernelSteps kernel r.size aim xMode yMode Scale.engineSize
  Step.runAll e r steps

end BatchScaler

import BatchScaler.Filter.Step

namespace BatchScaler

/-- Where a crop begins on an axis: the wished position, moved onto the image. -/
def cropStart (length target start : Int) : Int :=
  max 0 (min start (length - target))

def cropLength (length target start : Int) : Int :=
  min target (length - cropStart length target start)

/-- The requests that bring an image to the size `target`, cut from the position `(left, top)`. No
request is made that would change nothing. -/
def fitSteps (size target : Size) (left top : Int) : List Step :=
  let x := cropStart size.width target.width left
  let y := cropStart size.height target.height top
  let kept : Size := ⟨cropLength size.width target.width left,
    cropLength size.height target.height top⟩
  (if x = 0 ∧ y = 0 ∧ kept = size then [] else [.crop x y kept.width kept.height]) ++
    (if kept = target then []
      else [.embed 0 0 target.width target.height .constantExtension])

def padSteps (size : Size) (marginX marginY : Int) (xMode yMode : EdgeMode) : List Step :=
  let width := if 0 < marginX then size.width + 2 * marginX else size.width
  (if 0 < marginX then [.embed marginX 0 width size.height xMode] else []) ++
    (if 0 < marginY then [.embed 0 marginY width (size.height + 2 * marginY) yMode] else [])

namespace Raster

variable {α : Type}

def fitExact (r : Raster α) (target : Size) (left top : Int) : Except Fault (Raster α) :=
  Step.runAll .nearestPixel r (fitSteps r.size target left top)

def padImage (r : Raster α) (marginX marginY : Int) (xMode yMode : EdgeMode) :
    Except Fault (Raster α) :=
  Step.runAll .nearestPixel r (padSteps r.size marginX marginY xMode yMode)

end Raster

end BatchScaler

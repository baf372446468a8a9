import BatchScaler.Filter.PixelArt

namespace BatchScaler

abbrev Pixel (bands : Nat) : Type :=
  Vector UInt8 bands

inductive FileFormat
  | png
  | tiff
  | jpeg
  | webp
  | native
  deriving DecidableEq, Repr

namespace FileFormat

def maxBands? : FileFormat → Option Nat
  | jpeg => some 3
  | png => some 4
  | webp => some 4
  | _ => none

def dropsOpacity : FileFormat → Bool
  | webp => true
  | _ => false

def maxSide? : FileFormat → Option Nat
  | jpeg => some 65500
  | webp => some 16383
  | _ => none

end FileFormat

/-- A raster of pixels with the same number of samples each. A picture remembers the format of the
file that it stems from, as long as nothing but the image engine has worked on it. -/
structure Picture where
  bands : Nat
  raster : Raster (Pixel bands)
  origin : Option FileFormat := none

namespace Picture

variable (p : Picture)

def size : Size :=
  p.raster.size

def samples : List UInt8 :=
  p.raster.pixels.toList.flatMap Vector.toList

def ofSamples (width height bands : Nat) (sample : Nat → UInt8) : Picture where
  bands := bands
  raster := .ofFn width height fun x y =>
    .ofFn fun band => sample ((y.val * width + x.val) * bands + band.val)

def colourOfGrey (pixel : Pixel 1) : Pixel 3 :=
  #v[pixel[0], pixel[0], pixel[0]]

def colourOfGreyAlpha (pixel : Pixel 2) : Pixel 4 :=
  #v[pixel[0], pixel[0], pixel[0], pixel[1]]

/-- The picture in colour: a grey one gets three equal bands, opacity is kept, and a picture that is
in colour stays as it is. -/
def inColour : Picture → Picture
  | ⟨1, raster, origin⟩ => ⟨3, raster.map colourOfGrey, origin⟩
  | ⟨2, raster, origin⟩ => ⟨4, raster.map colourOfGreyAlpha, origin⟩
  | p => p

def firstBands (count : Nat) : Picture :=
  if h : count < p.bands then
    ⟨count, p.raster.map fun pixel => .ofFn fun band => pixel.get ⟨band.val, by omega⟩, p.origin⟩
  else p

def isOpaque : Bool :=
  p.raster.pixels.all fun pixel => pixel.toArray.getD 3 255 == 255

def interpretation : String :=
  if 3 ≤ p.bands then "srgb" else "b-w"

end Picture

namespace FileFormat

variable (format : FileFormat) (p : Picture)

def keptBands? : Option Nat :=
  if format.dropsOpacity && p.isOpaque then some 3 else format.maxBands?

def keep : Picture :=
  match format.keptBands? p with
  | none => p
  | some count => p.firstBands count

def fits : Bool :=
  match format.maxSide? with
  | none => true
  | some side => p.raster.width ≤ side && p.raster.height ≤ side

end FileFormat

end BatchScaler

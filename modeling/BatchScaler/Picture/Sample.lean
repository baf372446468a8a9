import BatchScaler.Number.Rounding
import BatchScaler.Picture.Basic

namespace BatchScaler

inductive SampleFormat
  | uchar
  | char
  | ushort
  | short
  | uint
  | int
  | float
  | double
  deriving DecidableEq, Repr

def clipToByte (n : Int) : UInt8 :=
  UInt8.ofNat (min n 255).toNat

namespace SampleFormat

/-- The byte that a sample of a format is cast to. Integers are clipped, and those of 32 bits are
read as signed before; of other numbers the fraction is dropped. -/
def toByte (format : SampleFormat) (value : Rat) : UInt8 :=
  match format with
  | .float => clipToByte (binary32.nearest (binary64.nearest value)).floor
  | .double => clipToByte (binary64.nearest value).floor
  | .uint => clipToByte (Int.bmod value.floor 4294967296)
  | _ => clipToByte value.floor

end SampleFormat

def Picture.cast (format : SampleFormat) (width height bands : Nat) (samples : Array Rat) :
    Picture :=
  .ofSamples width height bands fun k => format.toByte (samples.getD k 0)

end BatchScaler

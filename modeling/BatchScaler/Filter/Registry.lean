import BatchScaler.Filter.PixelArt
import BatchScaler.Text.Upper

namespace BatchScaler

structure NamedFilter (κ : Type) where
  name : String
  method : κ
  deriving DecidableEq, Repr

/-- Filters in order of registration, and for each name in upper case the filter it stands for. -/
structure Registry (κ : Type) where
  filters : List (NamedFilter κ)
  table : List (String × NamedFilter κ)

namespace Registry

variable {κ : Type}

def enter (table : List (String × NamedFilter κ)) (f : NamedFilter κ) :
    List (String × NamedFilter κ) :=
  match table.lookup (Text.upper f.name) with
  | some _ => table
  | none => table ++ [(Text.upper f.name, f)]

def ofList (filters : List (NamedFilter κ)) : Registry κ where
  filters := filters
  table := filters.foldl enter []

variable (r : Registry κ)

def names : List String :=
  r.filters.map (·.name)

def resolve (name : String) : Option (NamedFilter κ) :=
  r.table.lookup (Text.upper name)

end Registry

inductive Method
  | kernel (kernel : Kernel)
  | pixelArt (scaler : Scaler)
  deriving DecidableEq, Repr

namespace Method

def scale : Method → Nat
  | kernel _ => 1
  | pixelArt scaler => scaler.factor

def family : Method → String
  | kernel _ => "KernelFilter"
  | pixelArt _ => "PixelArtFilter"

end Method

def NamedFilter.describe (f : NamedFilter Method) : String :=
  f.method.family ++ "(" ++ Text.quoted f.name ++ ")"

def kernelFilters : List (NamedFilter Method) :=
  [⟨"Pixel", .kernel .nearest⟩, ⟨"Bilinear", .kernel .linear⟩, ⟨"Bicubic", .kernel .cubic⟩,
    ⟨"Mitchell", .kernel .mitchell⟩, ⟨"Lanczos2", .kernel .lanczos2⟩,
    ⟨"Lanczos3", .kernel .lanczos3⟩]

def pixelArtFilters : List (NamedFilter Method) :=
  [⟨"Scale2x", .pixelArt .scale2x⟩, ⟨"Scale3x", .pixelArt .scale3x⟩,
    ⟨"Eagle2x", .pixelArt .eagle2x⟩]

def defaultRegistry : Registry Method :=
  .ofList (kernelFilters ++ pixelArtFilters)

end BatchScaler

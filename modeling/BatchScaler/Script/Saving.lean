import BatchScaler.Script.Session
import BatchScaler.Text.Parts

namespace BatchScaler

def jpegExtensions : List String := [".JPG", ".JPEG"]

def jpegMime : String := "image/jpeg"

def jpegQuality : Nat := 100

def fileName (path : List Char) : List Char :=
  Text.afterLast '/' path

def fromLastDot (name : List Char) : List Char :=
  if name.contains '.' then '.' :: Text.afterLast '.' name else []

/-- The extension of a path in upper case. A name that starts with its only dot is all extension. -/
def extension (path : String) : String :=
  Text.upper (String.ofList (fromLastDot (fileName path.toList)))

def isJpegPath (path : String) : Bool :=
  jpegExtensions.contains (extension path)

namespace Session

variable {σ ι κ : Type} (s : Session σ ι κ)

def saveImage (path : String) (image : ι) : Action (Event ι) σ (Option Notice) :=
  if isJpegPath path then do
    if ← ask (.hasEncoder jpegMime) (s.service.hasEncoder jpegMime) then
      log .debug "encoder"
        ("jpeg encode: " ++ path ++ " (quality=" ++ toString jpegQuality ++ ")")
      ask (.saveWithQuality path image jpegMime jpegQuality)
        (s.service.saveWithQuality image path jpegMime jpegQuality)
      return none
    else return some (.missingEncoder jpegMime)
  else do
    ask (.save path image) (s.service.save image path)
    return none

def save (path : String) (buffer : Option ι) : Action (Event ι) σ Bool := do
  let obstacle ←
    match buffer with
    | none => pure (some Notice.nothingToSave)
    | some image => s.saveImage path image
  match obstacle with
  | none => return true
  | some notice =>
    Action.report (.notice notice)
    return false

end Session

end BatchScaler

import BatchScaler.Picture.Filtering
import BatchScaler.Service.Basic
import BatchScaler.Storage.Disk

namespace BatchScaler

/-- What the image engine of a file service is like: which suffixes it says it can write, and what
it says when it fails. -/
structure EngineProfile where
  suffixes : List String := [".v", ".png", ".jpg", ".jpeg", ".jpe", ".webp", ".tif", ".tiff"]
  complaint : String := ""
  deriving DecidableEq, Repr

namespace EngineProfile

variable (e : EngineProfile)

def complaintOr (default : String) : String :=
  let text := Text.trim e.complaint
  if text = "" then default else text

def mimeSuffixes : String → Option (List String)
  | "image/jpeg" => some [".jpg", ".jpeg", ".jpe"]
  | "image/png" => some [".png"]
  | "image/webp" => some [".webp"]
  | "image/tiff" => some [".tif", ".tiff"]
  | _ => none

def canEncode (mime : String) : Bool :=
  match mimeSuffixes mime with
  | none => false
  | some suffixes => suffixes.any ((e.suffixes.map Text.lowerAscii).contains ·)

end EngineProfile

namespace FileFormat

def suffixes : List (String × FileFormat) :=
  [(".png", png), (".tif", tiff), (".tiff", tiff), (".v", native), (".vips", native),
    (".jpg", jpeg), (".jpeg", jpeg), (".jpe", jpeg), (".jfif", jpeg), (".webp", webp)]

def ofPath? (path : String) : Option FileFormat :=
  let lower := (Text.lowerAscii path).toList
  (suffixes.find? fun (suffix, _) => suffix.toList.isSuffixOf lower).map (·.2)

def ofMime? : String → Option FileFormat
  | "image/jpeg" => some jpeg
  | "image/png" => some png
  | "image/webp" => some webp
  | "image/tiff" => some tiff
  | _ => none

end FileFormat

namespace FileService

def maxEngineInteger : Int := 2147483647

def checkInteger {ε σ : Type} (n : Int) : Action ε σ Unit :=
  if n < -maxEngineInteger - 1 ∨ maxEngineInteger < n then .fail .overflow else return ()

variable (engine : Engine) (profile : EngineProfile)

/-- Loads a picture. The tidied path has to lead to a file, and the engine has to find a picture
there by the path as it stands. -/
def load (path : String) : Action LogRecord Disk Picture := do
  if ← Action.read (·.isTooLong (tidyPath path)) then
    Action.fail (.pathTooLong (tidyPath path))
  else if !(← Action.read (·.hasFile (tidyPath path))) then
    Action.fail (.io path "file not found")
  else
    match ← Action.read (·.find? path) with
    | some (.picture format content) =>
      let p := content.read format
      Action.report (.of .debug "codec"
        ("loaded " ++ path ++ ": " ++ p.size.text ++ " bands=" ++ toString p.bands))
      return p
    | _ => Action.fail (.io path (profile.complaintOr "cannot decode"))

def visiblePath (path : String) : String :=
  String.ofList (path.toList.takeWhile (· != '\x00'))

def write (p : Picture) (path : String) (format : Option FileFormat) :
    Action LogRecord Disk Unit := do
  match format, ← Action.read (·.locate (visiblePath path)) with
  | some format, .ok place =>
    if !format.fits p || (← Action.read (·.isDirectory place)) then
      Action.fail (.io path (profile.complaintOr "cannot encode"))
    else Action.update (·.put place (.picture format (.bytes (format.keep p))))
  | _, _ => Action.fail (.io path (profile.complaintOr "cannot encode"))

def save (p : Picture) (path : String) : Action LogRecord Disk Unit := do
  write profile p path (FileFormat.ofPath? (visiblePath path))
  Action.report (.of .debug "codec" ("saved " ++ path))

def saveWithQuality (p : Picture) (path mime : String) (quality : Nat) :
    Action LogRecord Disk Unit :=
  match FileFormat.ofMime? mime with
  | none => .fail (.io path ("no saver for " ++ mime))
  | some format => do
    checkInteger quality
    write profile p path (some format)
    Action.report (.of .debug "codec"
      ("saved " ++ path ++ " (" ++ mime ++ ", Q=" ++ toString quality ++ ")"))

def service : ImageService Disk Picture Method where
  load := load profile
  applyFilter p f requested xMode yMode := f.apply engine requested xMode yMode p
  save := save profile
  hasEncoder mime := return profile.canEncode mime
  saveWithQuality := saveWithQuality profile

end FileService

end BatchScaler

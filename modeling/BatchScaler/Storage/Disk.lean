import BatchScaler.Picture.Sample
import BatchScaler.Text.Parts

namespace BatchScaler

inductive StoredPicture
  | bytes (picture : Picture)
  | words (width height bands : Nat) (samples : Array Nat)
  | other (format : SampleFormat) (width height bands : Nat) (samples : Array Rat)

def StoredPicture.normalise : StoredPicture → Picture
  | bytes picture => picture.inColour
  | words width height bands samples =>
    (Picture.ofSamples width height bands fun k =>
      clipToByte (samples.getD k 0 / 256 : Nat)).inColour
  | other format width height bands samples =>
    (Picture.cast format width height bands samples).inColour

/-- The format that a stored picture stems from. The native format keeps what a picture remembers,
every other format speaks for itself. -/
def StoredPicture.origin (format : FileFormat) (content : StoredPicture) : Option FileFormat :=
  match format, content with
  | .native, bytes picture => picture.origin
  | .native, _ => none
  | format, _ => some format

def StoredPicture.read (format : FileFormat) (content : StoredPicture) : Picture :=
  { format.keep content.normalise with origin := content.origin format }

inductive Entry
  | directory
  | device
  | document (content : ByteArray)
  | picture (format : FileFormat) (content : StoredPicture)

def Entry.isFile : Entry → Bool
  | document _ => true
  | picture _ _ => true
  | _ => false

/-- A place: the names that lead there from the working directory, or from the root if the first of
them is a slash. Places above the working directory start with dots. -/
abbrev Place : Type :=
  List String

inductive PathFault
  /-- A part on the way is not a directory. -/
  | missing
  | tooLong
  deriving DecidableEq, Repr

/-- The entries at places. The directories that lead to an entry need no entries of their own. -/
structure Disk where
  entries : List (Place × Entry) := []

def pathParts (path : String) : List String :=
  (Text.partsBetween '/' path.toList).map String.ofList

def startOf (path : String) : Place :=
  if path.toList.head? == some '/' then ["/"] else []

def isIdlePart (part : String) : Bool :=
  part == "" || part == "."

def tidyParts (path : String) : List String :=
  (pathParts path).filter (!isIdlePart ·)

/-- The slashes that a tidied path starts with. Two slashes are kept, more than two count as one. -/
def rootSlashes (path : String) : String :=
  match path.toList with
  | '/' :: '/' :: '/' :: _ => "/"
  | '/' :: '/' :: _ => "//"
  | '/' :: _ => "/"
  | _ => ""

def tidyPath (path : String) : String :=
  let tidied := rootSlashes path ++ "/".intercalate (tidyParts path)
  if tidied = "" then "." else tidied

def maxNameBytes : Nat := 255

def maxPathBytes : Nat := 4095

namespace Place

/-- Whether a place lies on the way from the root to the working directory, or is one of them. -/
def isUpward (place : Place) : Bool :=
  place == ["/"] || place.all (· == "..")

def above (place : Place) : Place :=
  if place = ["/"] then place
  else if place.isUpward then place ++ [".."]
  else place.dropLast

def isInside (place : Place) : Bool :=
  match place with
  | [] => false
  | name :: _ => name != "/" && name != ".."

end Place

namespace Disk

variable (d : Disk)

def systemDirectories : List String :=
  ["bin", "boot", "dev", "etc", "home", "lib", "media", "mnt", "opt", "proc", "root", "run", "sbin",
    "srv", "sys", "tmp", "usr", "var"]

def systemEntries : List (Place × Entry) :=
  (["/", "dev", "null"], .device) :: systemDirectories.map fun name => (["/", name], .directory)

def entry? (place : Place) : Option Entry :=
  (d.entries ++ systemEntries).lookup place

def isDirectory (place : Place) : Bool :=
  match d.entry? place with
  | some .directory => true
  | some _ => false
  | none => place.isUpward || d.entries.any fun (p, _) => place.isPrefixOf p

def walk (place : Place) : List String → Except PathFault Place
  | [] => .ok place
  | part :: rest =>
    if !d.isDirectory place then .error .missing
    else if isIdlePart part then walk place rest
    else if part = ".." then walk place.above rest
    else if maxNameBytes < part.utf8ByteSize then .error .tooLong
    else walk (place ++ [part]) rest

/-- The place that a path leads to. No file has an empty path or a NUL in its path. -/
def locate (path : String) : Except PathFault Place :=
  if path = "" ∨ path.toList.contains '\x00' then .error .missing
  else if maxPathBytes < path.utf8ByteSize then .error .tooLong
  else d.walk (startOf path) (pathParts path)

def isTooLong (path : String) : Bool :=
  match d.locate path with
  | .error .tooLong => true
  | _ => false

def find? (path : String) : Option Entry :=
  match d.locate path with
  | .error _ => none
  | .ok place => if d.isDirectory place then some .directory else d.entry? place

def hasFile (path : String) : Bool :=
  ((d.find? path).map Entry.isFile).getD false

def put (place : Place) (e : Entry) : Disk :=
  ⟨d.entries.filter (·.1 != place) ++ [(place, e)]⟩

def newPictures (before : Disk) : List (Place × FileFormat × StoredPicture) :=
  d.entries.filterMap fun (place, e) =>
    match e, before.entry? place with
    | .picture format content, none =>
      if place.isInside then some (place, (content.origin format).getD .native, content) else none
    | _, _ => none

end Disk

end BatchScaler

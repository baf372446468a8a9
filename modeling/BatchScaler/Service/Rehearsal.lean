import BatchScaler.Report.Metrics
import BatchScaler.Service.Basic

namespace BatchScaler

structure SketchedImage where
  source : String
  width : Int
  height : Int
  history : List String
  deriving DecidableEq, Repr

structure SketchedFilter where
  scale : Int := 1
  failAt : Option Int := none
  deriving DecidableEq, Repr

/-- What a rehearsal knows of the world: the files with their sizes, the encoders there are, and the
paths that cannot be written with the reasons. -/
structure Rehearsal where
  files : List (String × Int × Int) := []
  encoders : List String := []
  saveErrors : List (String × String) := []
  deriving DecidableEq, Repr

namespace SketchedImage

def enlarged (image : SketchedImage) (name : String) (scale : Int) (requested : Size) :
    SketchedImage where
  source := image.source
  width := if requested.width = 0 then image.width * scale else requested.width
  height := if requested.height = 0 then image.height * scale else requested.height
  history := image.history ++ [name]

end SketchedImage

namespace Rehearsal

variable (r : Rehearsal)

def load (path : String) : Action LogRecord Tally SketchedImage :=
  match r.files.lookup path with
  | some (width, height) => return ⟨path, width, height, []⟩
  | none => .fail (.io path "file not found")

def applyFilter (image : SketchedImage) (f : NamedFilter SketchedFilter) (requested : Size) :
    Action LogRecord Tally SketchedImage := do
  Action.update (·.add f.name 1)
  let applications ← Action.read (·.count f.name)
  if f.method.failAt = some applications then .fail (.io f.name "filter failed")
  else return image.enlarged f.name f.method.scale requested

def save (path : String) : Action LogRecord Tally Unit :=
  match r.saveErrors.lookup path with
  | some reason => .fail (.io path reason)
  | none => return ()

def service : ImageService Tally SketchedImage SketchedFilter where
  load := r.load
  applyFilter image f requested _ _ := applyFilter image f requested
  save _ path := r.save path
  hasEncoder mime := return r.encoders.contains mime
  saveWithQuality _ path _ _ := r.save path

end Rehearsal

end BatchScaler

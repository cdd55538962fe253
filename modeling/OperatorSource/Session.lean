import OperatorSource.Delivery
import OperatorSource.Settings.Document
import OperatorSource.Specification.Loading

/-!
# Sessions

A session is a sequence of steps on the same files: requests and settings are loaded, texts are
written, source files are generated, and files are read back. A session goes on with the next step
after one that fails.
-/

namespace OperatorSource

namespace Session

inductive Step where
  | loadRequest (path : String)
  | loadSettings (path : String)
  | write (path text : String)
  | generate (path : String) (settings : Settings) (request : Request)
  | read (path : String)

/-- What a step gives when it succeeds. -/
inductive Answer where
  | request (loaded : Request)
  | settings (loaded : Settings)
  | written
  /-- The content of a file, if it can be read. -/
  | content (found : Option String)

inductive Failure where
  | request (error : LoadError)
  | settings (error : SettingsError)
  | delivery (error : DeliveryError)

end Session

variable {Files : Type} [FileSystem Files]

def Session.Step.effect : Session.Step → Effect Files Session.Failure Session.Answer
  | .loadRequest path => do
    let loaded ← .look fun files =>
      .ofExcept ((Request.load (FileSystem.read files) path).mapError .request)
    return .request loaded
  | .loadSettings path => do
    let loaded ← .look fun files =>
      .ofExcept ((Settings.load (FileSystem.read files) path).mapError .settings)
    return .settings loaded
  | .write path text => do
    ((Destination.file path).deliver text).mapError .delivery
    return .written
  | .generate path settings request => do
    (settings.generateTo request (.file path)).mapError .delivery
    return .written
  | .read path => .look fun files => pure (.content (FileSystem.read files path).toOption)

namespace World

/-- How a step of a session ends, and the world that the next step finds. -/
def proceed (world : World Files) (step : Session.Step) :
    Traced Session.Failure Session.Answer × World Files :=
  step.effect.run world

/-- The world after all steps of a session. -/
def session (world : World Files) (steps : List Session.Step) : World Files :=
  steps.foldl (fun current step => (current.proceed step).2) world

end World

end OperatorSource

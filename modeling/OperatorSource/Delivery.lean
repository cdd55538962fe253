import OperatorSource.Effect
import OperatorSource.Generation

/-!
# Delivering a source file

A generated text goes to standard output or into a file. Nothing is delivered when generation fails.
Writing a file is reported once it has succeeded.
-/

namespace OperatorSource

/-- Where a generated text goes. -/
inductive Destination where
  | standardOutput
  | file (path : String)
  deriving DecidableEq

inductive DeliveryError where
  | refused (error : RequestError)
  | unwritable (path : String) (fault : FileFault)

namespace DeliveryError

def message : DeliveryError → String
  | .refused error => error.message
  | .unwritable path fault => "failed to write '" ++ path ++ "': " ++ fault.message

/-- The message of the cause behind an error, if it is a failure of another part. -/
def cause? : DeliveryError → Option String
  | .refused _ => none
  | .unwritable _ fault => some fault.message

end DeliveryError

/-- What writing a text to a file comes to: an event if it succeeded, an error if it did not. -/
def reportWrite (path text : String) : Except FileFault Unit → Traced DeliveryError Unit
  | .error fault => .fail (.unwritable path fault)
  | .ok () => .report (.sourceWritten path text.utf8ByteSize)

section Delivery

variable {Files : Type} [FileSystem Files]

/-- Writes a text to a file. The files that are left count, however writing ended. -/
def Effect.writeFile (path text : String) : Effect Files DeliveryError Unit where
  run world :=
    let (outcome, files) := FileSystem.write world.files path text
    (reportWrite path text outcome, { world with files })

theorem Effect.run_writeFile (path text : String) (world : World Files) :
    (writeFile path text).run world =
      (reportWrite path text (FileSystem.write world.files path text).1,
        { world with files := (FileSystem.write world.files path text).2 }) := rfl

def Destination.deliver (text : String) : Destination → Effect Files DeliveryError Unit
  | .standardOutput => .print text
  | .file path => .writeFile path text

/-- Generates the source file of a request and delivers it. -/
def Settings.generateTo (settings : Settings) (request : Request) (destination : Destination) :
    Effect Files DeliveryError Unit := do
  let text ← .look fun _ => (settings.generate request).mapError .refused
  destination.deliver text

variable {settings : Settings} {request : Request}

theorem Settings.run_generateTo_of_refused {error : RequestError}
    (refused : (settings.generate request).result = .error error) (destination : Destination)
    (world : World Files) : (settings.generateTo request destination).run world =
      (⟨(settings.generate request).events, .error (.refused error)⟩, world) := by
  refine Effect.run_bind_of_error ?_ _
  rw [Effect.run_look, Traced.mapError, refused]
  rfl

theorem Settings.run_generateTo_of_made {text : String}
    (made : (settings.generate request).result = .ok text) (destination : Destination)
    (world : World Files) : (settings.generateTo request destination).run world =
      (⟨(settings.generate request).events ++ ((destination.deliver text).run world).1.events,
        ((destination.deliver text).run world).1.result⟩,
        ((destination.deliver text).run world).2) := by
  refine Effect.run_bind_of_ok ?_ _
  rw [Effect.run_look, Traced.mapError, made]
  rfl

end Delivery

end OperatorSource

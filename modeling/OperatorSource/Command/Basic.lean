import OperatorSource.Catalog.Registry
import OperatorSource.Delivery
import OperatorSource.Settings.Document
import OperatorSource.Specification.Loading

/-!
# Commands

A command generates the source file of a specification or of a builtin operator, or lists what there
is. It is first prepared: settings and specification are loaded and the text is made, all of which
only reads files. Then there is exactly one effect: the text is printed or written to a file. The
first stage that fails ends the command without any effect.
-/

namespace OperatorSource

inductive Command where
  | generate (specification : String) (config output : Option String) (strict : Bool)
  | builtin (name : String) (config output : Option String)
  | list
  | types
  deriving DecidableEq

/-- What a source file is generated for, in messages. -/
inductive Subject where
  | operator (name : String)
  | builtin (name : String)
  deriving DecidableEq

def Subject.text : Subject → String
  | .operator name => "'" ++ name ++ "'"
  | .builtin name => "builtin '" ++ name ++ "'"

/-- Why a command fails. -/
inductive CommandError where
  | settings (path : String) (error : SettingsError)
  | specification (path : String) (error : LoadError)
  | unknownBuiltin (name : String) (available : List String)
  | delivery (subject : Subject) (error : DeliveryError)

/-- The messages for a failed command: what failed, and then its causes from the outside in. -/
def CommandError.chain : CommandError → List String
  | .settings path error => ["failed to load config from '" ++ path ++ "'", error.message]
  | .specification path error =>
    ["failed to load spec from '" ++ path ++ "'", error.message] ++ error.cause?.toList
  | .unknownBuiltin name available =>
    ["unknown builtin operator '" ++ name ++ "' (available: " ++ ", ".intercalate available ++ ")"]
  | .delivery subject error =>
    ["failed to generate " ++ subject.text, error.message] ++ error.cause?.toList

/-- What a prepared command is about to do. -/
inductive Product where
  /-- Prints a list. -/
  | listing (text : String)
  /-- Delivers a source file. -/
  | source (subject : Subject) (text : String) (destination : Destination)

def Destination.ofOption : Option String → Destination
  | none => .standardOutput
  | some path => .file path

/-- A text with blanks behind it up to a width. -/
def padded (width : Nat) (text : String) : String :=
  text ++ String.ofList (List.replicate (width - text.length) ' ')

/-- One line for each operator of a registry. -/
def Registry.listing (registry : Registry) : String :=
  unlines (registry.items.map (fun item => padded 18 item.1 ++ " " ++ item.2.summary))

def TypeTag.listing : String :=
  unlines (TypeTag.all.map (fun tag => padded 10 tag.text ++ " " ++ tag.typeClass.text))

namespace Command

variable (read : String → Except FileFault String)

/-- The settings in the file that an option names, or the default ones. -/
def loadSettings : Option String → Except CommandError Settings
  | none => .ok {}
  | some path => (Settings.load read path).mapError (.settings path)

/-- Makes the text for a subject. -/
def prepareSource (subject : Subject) (settings : Settings) (request : Request)
    (output : Option String) : Traced CommandError Product := do
  let text ← (settings.generate request).mapError (fun error => .delivery subject (.refused error))
  return .source subject text (.ofOption output)

/-- Does everything that comes before the effect of a command. -/
def prepare : Command → Traced CommandError Product
  | .generate path config output strict => do
    let loaded ← .ofExcept (loadSettings read config)
    let settings := { loaded with strictShapeRules := loaded.strictShapeRules || strict }
    let request ← .ofExcept ((Request.load read path).mapError (.specification path))
    .report (.specificationLoaded request.signature.name path)
    prepareSource (.operator request.signature.name) settings request output
  | .builtin name config output => do
    let settings ← .ofExcept (loadSettings read config)
    let registry ← Registry.builtins
    match registry.get? name with
    | none => .fail (.unknownBuiltin name registry.names)
    | some entry => prepareSource (.builtin name) settings entry.request output
  | .list => do
    let registry ← Registry.builtins
    return .listing registry.listing
  | .types => return .listing TypeTag.listing

end Command

section Effects

variable {Files : Type} [FileSystem Files]

def Product.perform : Product → Effect Files CommandError Unit
  | .listing text => .print text
  | .source subject text destination => (destination.deliver text).mapError (.delivery subject)

def Command.execute (command : Command) : Effect Files CommandError Unit := do
  let product ← .look fun files => command.prepare (FileSystem.read files)
  product.perform

end Effects

end OperatorSource

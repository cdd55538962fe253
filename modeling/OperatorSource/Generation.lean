import OperatorSource.Registration.Kernel
import OperatorSource.Registration.Operator
import OperatorSource.SourceFile

/-!
# Generating a source file

Generation is pure: a request is validated under the policy of the settings, its parts are built and
laid out, and the file is rendered. A refused request gives no text at all. The steps that succeed
are reported in order.
-/

namespace OperatorSource

def ValidatedRequest.sourceFile (request : ValidatedRequest) (settings : Settings) :
    SourceFile where
  headers := (request.kernel.map KernelBinding.headers).getD []
  registration := request.registration
  kernelClass := request.kernelClass? settings.placeholder
  kernelRegistration := request.kernelRegistration?

namespace Settings

/-- Validates a request and builds its source file as a fragment. -/
def build (settings : Settings) (request : Request) : Traced RequestError Fragment := do
  let validated ← request.validate settings.policy
  .report (.fragmentsBuilt validated.name (validated.kernel.map KernelBinding.className))
  return (validated.sourceFile settings).fragment settings

def generate (settings : Settings) (request : Request) : Traced RequestError String := do
  let fragment ← settings.build request
  let text := fragment.render
  .report (.sourceRendered request.signature.name text.utf8ByteSize)
  return text

end Settings

/-- Generates under the default settings for an operator given by plain pairs: names with type tags,
and outputs with fixed dimensions. -/
def generateFixed (operator : String) (attributes inputs outputs : List (String × String))
    (shapes : List (Nat × List Nat)) (className : String) (header : Option String) :
    Traced RequestError String :=
  Settings.generate {} {
    signature := {
      name := operator
      attributes := attributes.map (fun pair => ⟨pair.1, .scalar pair.2⟩)
      inputs := inputs.map (fun pair => ⟨pair.1, pair.2⟩)
      outputs := outputs.map (fun pair => ⟨pair.1, pair.2⟩) }
    shapeRules := shapes.map (fun pair => ⟨pair.1, .fixed pair.2⟩)
    kernel := some { className, headers := header.toList } }

end OperatorSource

import OperatorSource.Request.Validation

/-!
# Generation settings

Settings are shared by all requests of a run: the headers that every source file includes first, the
namespace it uses, whether repeated shape rules are refused, and the comment in kernel skeletons.
-/

namespace OperatorSource

/-- What all requests of a run have in common. -/
structure Settings where
  frameworkHeaders : List String :=
    ["tensorflow/core/framework/op.h", "tensorflow/core/framework/shape_inference.h",
      "tensorflow/core/framework/op_kernel.h"]
  namespaceName : String := "tensorflow"
  strictShapeRules : Bool := false
  placeholder : String := "Kernel implementation goes here"
  deriving DecidableEq

/-- How the settings treat repeated shape rules. -/
def Settings.policy (settings : Settings) : ShapePolicy :=
  if settings.strictShapeRules then .strict else .permissive

end OperatorSource

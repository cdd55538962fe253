import OperatorSource.Fragment.Basic
import OperatorSource.Request.Basic

/-!
# Shape functions

The shape function of an operator is a function literal that assigns a shape to every output that
has a rule, in the order of the rules, and then returns success. A fixed shape is first bound to a
local variable named for the output. A second fixed rule for the same output would declare that
variable again, so it goes into a block of its own; the later assignment still wins.
-/

namespace OperatorSource.Registration

def dimensionList (dimensions : List Nat) : String :=
  "\x7b" ++ ", ".intercalate (dimensions.map toString) ++ "\x7d"

/-- The local variable that holds the fixed shape of an output. -/
def shapeVariable (output : Nat) : String := "s" ++ toString output

/-- Binds the fixed shape of an output to its variable and assigns it. -/
def fixedShapeStatements (output : Nat) (dimensions : List Nat) : List Fragment :=
  [.assignment ("auto " ++ shapeVariable output)
      ("c->MakeShape(" ++ dimensionList dimensions ++ ")"),
    .lineStatement ("c->set_output(" ++ toString output ++ ", " ++ shapeVariable output ++ ")")]

/-- Assigns the shape of an input to an output. -/
def inputShapeStatement (output input : Nat) : Fragment :=
  .lineStatement
    ("c->set_output(" ++ toString output ++ ", c->input(" ++ toString input ++ "))")

/-- The statements for some rules, after fixed rules for the outputs `declared`. -/
def ruleStatements (declared : List Nat) : List ShapeRule → List Fragment
  | [] => []
  | ⟨output, .likeInput input⟩ :: rest =>
    inputShapeStatement output input :: ruleStatements declared rest
  | ⟨output, .fixed dimensions⟩ :: rest =>
    if output ∈ declared then
      .block none (fixedShapeStatements output dimensions) :: ruleStatements declared rest
    else fixedShapeStatements output dimensions ++ ruleStatements (output :: declared) rest

def shapeFunction (rules : List ShapeRule) : Fragment :=
  .block (some "[](::tensorflow::shape_inference::InferenceContext* c)")
    (ruleStatements [] rules ++ [.lineStatement "return Status::OK()"])

def shapeFunctionClause (literal : Fragment) : Fragment := .call "SetShapeFn" [literal]

end OperatorSource.Registration

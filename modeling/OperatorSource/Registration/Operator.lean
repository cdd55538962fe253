import OperatorSource.Registration.ShapeFunction
import OperatorSource.Request.Validation

/-!
# Registering an operator

An operator is registered by a chain of clauses, one per line and always in one order: its name, its
attributes, inputs and outputs, and at most one shape function. Names and tags go between double
quotes once and are otherwise copied as they are; they are taken to be legal identifiers.
-/

namespace OperatorSource

namespace Registration

/-- A clause that declares something of a given name and type. -/
def declarationClause (callee name typeTag : String) : Fragment :=
  .call callee [.quoted (name ++ ": " ++ typeTag)]

def nameClause (operator : String) : Fragment := .call "REGISTER_OP" [.quoted operator]

def attributeClause (declared : Attribute) : Fragment :=
  declarationClause "Attr" declared.name declared.tag.text

def inputClause (argument : Argument) : Fragment :=
  declarationClause "Input" argument.name argument.typeTag

def outputClause (argument : Argument) : Fragment :=
  declarationClause "Output" argument.name argument.typeTag

/-- The statement that registers an operator by its name and some more clauses. -/
def assemble (operator : String) (attributes inputs outputs : List Fragment)
    (literal : Option Fragment) : Fragment :=
  .statement (.chain (nameClause operator :: attributes ++ inputs ++ outputs ++
    (literal.map shapeFunctionClause).toList))

end Registration

namespace ValidatedRequest

open Registration

/-- The function literal for the rules of a request, if it has any rule. -/
def shapeFunction? (request : ValidatedRequest) : Option Fragment :=
  if request.shapeRules = [] then none else some (shapeFunction request.shapeRules)

/-- The statement that registers the operator of a request. -/
def registration (request : ValidatedRequest) : Fragment :=
  assemble request.name (request.attributes.map attributeClause) (request.inputs.map inputClause)
    (request.outputs.map outputClause) request.shapeFunction?

end ValidatedRequest

end OperatorSource

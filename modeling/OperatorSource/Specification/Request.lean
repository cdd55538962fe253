import OperatorSource.Specification.Basic

/-!
# From a specification to a request

The sections of a specification are turned into the lists of a request, in order: attributes,
inputs, outputs, shape rules. The first entry that is not of the expected form is refused. An
attribute may be declared with a composite kind here; that it cannot be generated shows only when
the request is validated.
-/

namespace OperatorSource

open Yaml (Value)

def ValueKind.ofValue : Value → ValueKind
  | .null => .null
  | .boolean _ => .boolean
  | .integer _ | .float _ => .number
  | .text _ => .string
  | .sequence _ => .list
  | .mapping _ => .mapping
  | .tagged _ _ => .tagged

namespace AttributeKind

/-- The composite kind that a value other than a text declares: any list, a single entry under the
keyword of a kind, or a value tagged with such a keyword. -/
def composite? : Value → Option Composite
  | .sequence _ => some .list
  | .mapping [entry] => entry.1.text?.bind Composite.ofKeyword?
  | .tagged tag _ =>
    Composite.ofKeyword? (String.ofList (tag.toList.dropWhile (fun character => character == '!')))
  | _ => none

/-- The kind that a value declares for the attribute of this name. -/
def ofValue (name : String) (value : Value) : Except RequestError AttributeKind :=
  match value with
  | .text tag => .ok (.scalar tag)
  | other =>
    match composite? other with
    | some kind => .ok (.composite kind)
    | none => .error (.unsupportedAttribute name (.notTag (.ofValue other)))

end AttributeKind

namespace AttributeDeclaration

/-- The attribute that an entry declares. Its name must be a text, whatever tags it bears. -/
def ofEntry (entry : Value × Value) : Except RequestError AttributeDeclaration :=
  match entry.1.text? with
  | none => .error (.malformedEntry (.attributeNameNotString (.ofValue entry.1)))
  | some name => do return ⟨name, ← AttributeKind.ofValue name entry.2⟩

end AttributeDeclaration

namespace Argument

/-- The argument that a value declares: a mapping of one text to another. -/
def ofValue (role : ArgumentRole) (value : Value) : Except RequestError Argument :=
  match value with
  | .mapping [entry] =>
    match entry.1.text?, entry.2.text? with
    | some name, some typeTag => .ok ⟨name, typeTag⟩
    | _, _ => .error (.malformedEntry
      (.argumentNotStrings role (.ofValue entry.1) (.ofValue entry.2)))
  | other => .error (.malformedEntry (.argumentNotPair role (.ofValue other)))

end Argument

namespace ShapeRule

/-- The dimensions that some integers give, the first of them at a position; each must be
positive. -/
def dimensionsFrom (output position : Nat) : List Int64 → Except RequestError (List Nat)
  | [] => .ok []
  | dimension :: rest =>
    if 0 < dimension.toInt then do
      let dimensions ← dimensionsFrom output (position + 1) rest
      return dimension.toInt.toNat :: dimensions
    else .error (.inconsistentRule output (.dimensionNotPositive position dimension.toInt))

/-- The shape rule that an entry gives: it has either dimensions or an input. -/
def ofEntry (entry : RuleEntry) : Except RequestError ShapeRule :=
  match entry.dimensions, entry.likeInput with
  | some dimensions, none => do
    return ⟨entry.output, .fixed (← dimensionsFrom entry.output 0 dimensions)⟩
  | none, some input => .ok ⟨entry.output, .likeInput input⟩
  | _, _ => .error (.malformedEntry (.ruleSourceUnclear entry.output))

end ShapeRule

namespace Specification

def request (specification : Specification) : Except RequestError Request := do
  let attributes ← (specification.attributes.getD []).mapM AttributeDeclaration.ofEntry
  let inputs ← (specification.inputs.getD []).mapM (Argument.ofValue .input)
  let outputs ← (specification.outputs.getD []).mapM (Argument.ofValue .output)
  let shapeRules ← (specification.shapeRules.getD []).mapM ShapeRule.ofEntry
  return {
    signature := { name := specification.name, attributes, inputs, outputs }
    shapeRules
    kernel := specification.kernel }

end Specification

end OperatorSource

import OperatorSource.Request.Error
import OperatorSource.Log.Traced

/-!
# Checking a request

A request is checked in stages: the operator name, the attributes, the inputs, the outputs, the
shape rules and the kernel class. The first problem found is the one reported. Attribute tags must
be in the vocabulary; tags of inputs and outputs only need to be there. Shape rules must fit the
signature; whether two of them may be for one output depends on the policy.
-/

namespace OperatorSource

/-- How shape rules for one and the same output are treated. -/
inductive ShapePolicy where
  /-- Every rule is kept, and a later one overrides an earlier one. -/
  | permissive
  /-- A second rule for an output is refused. -/
  | strict
  deriving DecidableEq

/-- An attribute whose tag is in the vocabulary. -/
structure Attribute where
  name : String
  tag : TypeTag
  deriving DecidableEq

/-- A request that passed every check. -/
structure ValidatedRequest where
  name : String
  attributes : List Attribute
  inputs : List Argument
  outputs : List Argument
  shapeRules : List ShapeRule
  kernel : Option KernelBinding
  deriving DecidableEq

namespace AttributeDeclaration

/-- Checks one attribute after those with the names `seen`. -/
def check (seen : List String) (declaration : AttributeDeclaration) :
    Except RequestError Attribute :=
  if declaration.name = "" then .error (.malformedEntry .attributeNameEmpty)
  else if declaration.name ∈ seen then
    .error (.malformedEntry (.attributeRepeated declaration.name))
  else
    match declaration.kind with
    | .composite kind => .error (.unsupportedAttribute declaration.name (.composite kind))
    | .scalar tag =>
      match TypeTag.ofText? tag with
      | none => .error (.unsupportedAttribute declaration.name (.unknownTag tag))
      | some known => .ok ⟨declaration.name, known⟩

/-- Checks attributes in order after those with the names `seen`. -/
def checkAll (seen : List String) :
    List AttributeDeclaration → Except RequestError (List Attribute)
  | [] => .ok []
  | declaration :: rest => do
    let first ← declaration.check seen
    let others ← checkAll (declaration.name :: seen) rest
    return first :: others

end AttributeDeclaration

namespace Argument

/-- Checks the argument at some index of the inputs or of the outputs. -/
def check (role : ArgumentRole) (index : Nat) (argument : Argument) : Except RequestError Unit :=
  if argument.name = "" then .error (.malformedEntry (.argumentNameEmpty role index))
  else if argument.typeTag = "" then
    .error (.malformedEntry (.argumentTypeEmpty role argument.name))
  else .ok ()

/-- Checks arguments in order, the first of them at index `index`. -/
def checkFrom (role : ArgumentRole) (index : Nat) : List Argument → Except RequestError Unit
  | [] => .ok ()
  | argument :: rest => do
    argument.check role index
    checkFrom role (index + 1) rest

def checkAll (role : ArgumentRole) (arguments : List Argument) : Except RequestError Unit :=
  checkFrom role 0 arguments

end Argument

namespace ShapeRule

/-- What keeps a rule from fitting a signature, other rules aside. -/
def fault? (signature : Signature) (rule : ShapeRule) : Option RuleFault :=
  if signature.outputs.length ≤ rule.output then
    some (.undeclaredOutput signature.name signature.outputs.length)
  else
    match rule.shape with
    | .fixed dimensions => (dimensions.findIdx? (· == 0)).map .zeroDimension
    | .likeInput input =>
      if signature.inputs.length ≤ input then
        some (.undeclaredInput input signature.name signature.inputs.length)
      else none

/-- Checks rules in order after rules for the outputs `seen`. -/
def checkFrom (signature : Signature) (policy : ShapePolicy) (seen : List Nat) :
    List ShapeRule → Traced RequestError Unit
  | [] => pure ()
  | rule :: rest =>
    match rule.fault? signature with
    | some fault => .fail (.inconsistentRule rule.output fault)
    | none =>
      if rule.output ∈ seen then
        match policy with
        | .strict => .fail (.inconsistentRule rule.output .repeatedOutput)
        | .permissive => do
          .report (.duplicateRule signature.name rule.output)
          checkFrom signature policy seen rest
      else checkFrom signature policy (rule.output :: seen) rest

def checkAll (signature : Signature) (policy : ShapePolicy) (rules : List ShapeRule) :
    Traced RequestError Unit :=
  checkFrom signature policy [] rules

end ShapeRule

def KernelBinding.check? : Option KernelBinding → Except RequestError Unit
  | none => .ok ()
  | some kernel =>
    if kernel.className = "" then .error (.malformedEntry .kernelClassEmpty) else .ok ()

def Request.validate (request : Request) (policy : ShapePolicy) :
    Traced RequestError ValidatedRequest := do
  let signature := request.signature
  if signature.name = "" then
    .fail (.malformedEntry .operatorNameEmpty)
  else
    let attributes ← .ofExcept (AttributeDeclaration.checkAll [] signature.attributes)
    .ofExcept (Argument.checkAll .input signature.inputs)
    .ofExcept (Argument.checkAll .output signature.outputs)
    ShapeRule.checkAll signature policy request.shapeRules
    .ofExcept (KernelBinding.check? request.kernel)
    .report (.requestValidated signature.name attributes.length signature.inputs.length
      signature.outputs.length request.shapeRules.length)
    return {
      name := signature.name
      attributes
      inputs := signature.inputs
      outputs := signature.outputs
      shapeRules := request.shapeRules
      kernel := request.kernel }

end OperatorSource

import OperatorSource.TypeTag

/-!
# Generation requests

A request is everything that one generated source file is made from: the signature of an operator,
the rules that give its outputs their shapes, and possibly the kernel class that is registered for
it. Requests are as declared: nothing here has been checked. Declaration order is kept throughout.
-/

namespace OperatorSource

/-- A composite kind of attribute. Such attributes can be declared but not generated. -/
inductive Composite where
  | list
  | tensor
  | shape
  | constraint
  deriving DecidableEq

namespace Composite

def keyword : Composite → String
  | .list => "list"
  | .tensor => "tensor"
  | .shape => "shape"
  | .constraint => "constraint"

def ofKeyword? : String → Option Composite
  | "list" => some .list
  | "tensor" => some .tensor
  | "shape" => some .shape
  | "constraint" => some .constraint
  | _ => none

end Composite

inductive AttributeKind where
  /-- A type tag, not yet compared with the vocabulary. -/
  | scalar (tag : String)
  | composite (kind : Composite)
  deriving DecidableEq

structure AttributeDeclaration where
  name : String
  kind : AttributeKind
  deriving DecidableEq

/-- A named input or output. Its type tag is passed through untouched. -/
structure Argument where
  name : String
  typeTag : String
  deriving DecidableEq

/-- The name, attributes, inputs and outputs of one operator. -/
structure Signature where
  name : String
  attributes : List AttributeDeclaration := []
  inputs : List Argument := []
  outputs : List Argument := []
  deriving DecidableEq

/-- Where the shape of an output comes from. -/
inductive OutputShape where
  /-- Literal dimensions; the empty list is the shape of a scalar. -/
  | fixed (dimensions : List Nat)
  /-- The shape of the input at this index. -/
  | likeInput (input : Nat)
  deriving DecidableEq

/-- Gives one output its shape. -/
structure ShapeRule where
  output : Nat
  shape : OutputShape
  deriving DecidableEq

/-- The kernel class that is registered for an operator, with the headers that declare what it
calls. -/
structure KernelBinding where
  className : String
  device : Device := .cpu
  headers : List String := []
  deriving DecidableEq

/-- Everything that one source file is generated from. -/
structure Request where
  signature : Signature
  shapeRules : List ShapeRule := []
  kernel : Option KernelBinding := none
  deriving DecidableEq

end OperatorSource

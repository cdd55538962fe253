import OperatorSource.Request.Basic

/-!
# What can be wrong with a request

A request is refused for one of three kinds of reason: an attribute is not a plain tag of the
vocabulary, an entry is malformed, or a shape rule does not fit the signature. Each reason is kept
as a cause; the wording is in one place.
-/

namespace OperatorSource

/-- What is found in a specification where something else is expected. -/
inductive ValueKind where
  | null
  | boolean
  | number
  | string
  | list
  | mapping
  | tagged
  deriving DecidableEq

def ValueKind.text : ValueKind → String
  | .null => "null"
  | .boolean => "a boolean"
  | .number => "a number"
  | .string => "a string"
  | .list => "a list"
  | .mapping => "a mapping"
  | .tagged => "a tagged value"

/-- Why an attribute is not a plain tag of the vocabulary. -/
inductive AttributeFault where
  | unknownTag (tag : String)
  | composite (kind : Composite)
  | notTag (found : ValueKind)
  deriving DecidableEq

def AttributeFault.text : AttributeFault → String
  | .unknownTag tag => "'" ++ tag ++ "' is not an allowed type tag"
  | .composite kind => kind.keyword ++ " attributes are not supported"
  | .notTag found => "expected a type tag, found " ++ found.text

/-- Whether an argument is read or written by the operator. -/
inductive ArgumentRole where
  | input
  | output
  deriving DecidableEq

/-- The word for a role in messages. -/
def ArgumentRole.text : ArgumentRole → String
  | .input => "input"
  | .output => "output"

/-- Why an entry of a request is malformed. -/
inductive EntryFault where
  | operatorNameEmpty
  | attributeNameEmpty
  | attributeRepeated (name : String)
  | attributeNameNotString (found : ValueKind)
  | argumentNameEmpty (role : ArgumentRole) (index : Nat)
  | argumentTypeEmpty (role : ArgumentRole) (name : String)
  | argumentNotPair (role : ArgumentRole) (found : ValueKind)
  | argumentNotStrings (role : ArgumentRole) (name typeTag : ValueKind)
  | ruleSourceUnclear (output : Nat)
  | kernelClassEmpty
  deriving DecidableEq

namespace EntryFault

/-- The section of the request that a malformed entry belongs to. -/
def sectionText : EntryFault → String
  | .operatorNameEmpty => "operator"
  | .attributeNameEmpty | .attributeRepeated _ | .attributeNameNotString _ => "attribute"
  | .argumentNameEmpty role _ | .argumentTypeEmpty role _ | .argumentNotPair role _
  | .argumentNotStrings role _ _ => role.text
  | .ruleSourceUnclear _ => "shape rule"
  | .kernelClassEmpty => "kernel"

/-- The wording of an entry fault, without its section. -/
def text : EntryFault → String
  | .operatorNameEmpty => "operator name is empty"
  | .attributeNameEmpty => "attribute name is empty"
  | .attributeRepeated name => "attribute '" ++ name ++ "' is declared more than once"
  | .attributeNameNotString found => "attribute names must be strings, found " ++ found.text
  | .argumentNameEmpty _ index => "entry " ++ toString index ++ " has an empty name"
  | .argumentTypeEmpty _ name => "'" ++ name ++ "' has an empty type"
  | .argumentNotPair _ found => "expected a single `name: type` pair, found " ++ found.text
  | .argumentNotStrings _ name typeTag =>
    "expected `name: type` strings, found " ++ name.text ++ " -> " ++ typeTag.text
  | .ruleSourceUnclear output =>
    "rule for output " ++ toString output ++ " needs exactly one of `dims` or `same_as_input`"
  | .kernelClassEmpty => "kernel class name is empty"

end EntryFault

/-- Why a shape rule does not fit the signature of its operator. -/
inductive RuleFault where
  | undeclaredOutput (operator : String) (outputs : Nat)
  | zeroDimension (position : Nat)
  | dimensionNotPositive (position : Nat) (dimension : Int)
  | undeclaredInput (input : Nat) (operator : String) (inputs : Nat)
  | repeatedOutput
  deriving DecidableEq

def RuleFault.text : RuleFault → String
  | .undeclaredOutput operator outputs =>
    "'" ++ operator ++ "' declares " ++ toString outputs ++ " output(s)"
  | .zeroDimension position =>
    "dimension " ++ toString position ++ " is zero, dimensions must be positive"
  | .dimensionNotPositive position dimension =>
    "dimension " ++ toString position ++ " is " ++ toString dimension ++
      ", dimensions must be positive"
  | .undeclaredInput input operator inputs =>
    "input " ++ toString input ++ " does not exist, '" ++ operator ++ "' declares " ++
      toString inputs ++ " input(s)"
  | .repeatedOutput => "output has more than one shape rule"

inductive RequestError where
  | unsupportedAttribute (name : String) (fault : AttributeFault)
  | malformedEntry (fault : EntryFault)
  | inconsistentRule (output : Nat) (fault : RuleFault)
  deriving DecidableEq

def RequestError.message : RequestError → String
  | .unsupportedAttribute name fault =>
    "attribute '" ++ name ++ "': unsupported attribute kind: " ++ fault.text
  | .malformedEntry fault => "malformed " ++ fault.sectionText ++ " entry: " ++ fault.text
  | .inconsistentRule output fault =>
    "inconsistent shape rule for output " ++ toString output ++ ": " ++ fault.text

end OperatorSource

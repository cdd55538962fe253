import OperatorSource.Yaml.Scalar
import OperatorSource.Yaml.Node.Basic
import OperatorSource.Yaml.Value

/-!
# What can be wrong with a document

A text that is not one well-formed document is malformed, and nothing more is said about it. In a
well-formed document something may be found where something else is expected. The cause is then
kept together with its place: a path of keys and indices from the root, and a position. Besides,
collections may be nested too deeply and aliases be repeated too often.
-/

namespace OperatorSource.Yaml

/-- What is found in a document where something else is expected. -/
inductive Found where
  | scalar (value : Scalar)
  | sequence
  | mapping

def Found.text : Found → String
  | .scalar .null => "unit value"
  | .scalar (.boolean value) => "boolean `" ++ toString value ++ "`"
  | .scalar (.integer value) => "integer `" ++ toString value ++ "`"
  | .scalar (.wideInteger value) =>
    "integer `" ++ toString value ++ (if value < 0 then "` as i128" else "` as u128")
  | .scalar (.float value) => "floating point `" ++ value.positionalText ++ "`"
  | .scalar (.text value) => "string " ++ Text.quote value
  | .sequence => "sequence"
  | .mapping => "map"

/-- Why a part of a document does not fit. -/
inductive Mismatch where
  | invalidType (found : Found) (expected : String)
  | invalidValue (found : Found) (expected : String)
  | unknownField (name : String) (known : List String)
  | missingField (name : String)
  | duplicateField (name : String)
  | unknownVariant (name : String) (known : List String)
  | duplicateKey (key : Value)

/-- One or several names, each in backticks. -/
def alternatives : List String → String
  | [] => "nothing"
  | [name] => "`" ++ name ++ "`"
  | [first, second] => "`" ++ first ++ "` or `" ++ second ++ "`"
  | names => "one of " ++ ", ".intercalate (names.map (fun name => "`" ++ name ++ "`"))

def Mismatch.text : Mismatch → String
  | .invalidType found expected => "invalid type: " ++ found.text ++ ", expected " ++ expected
  | .invalidValue found expected => "invalid value: " ++ found.text ++ ", expected " ++ expected
  | .unknownField name known =>
    "unknown field `" ++ name ++ "`, expected " ++ alternatives known
  | .missingField name => "missing field `" ++ name ++ "`"
  | .duplicateField name => "duplicate field `" ++ name ++ "`"
  | .unknownVariant name known =>
    "unknown variant `" ++ name ++ "`, expected " ++ alternatives known
  | .duplicateKey key => "duplicate entry " ++ key.keyText

/-- A step from a collection to what it holds. -/
inductive Segment where
  /-- To the value of a key; a key that is not written as a scalar has no name. -/
  | key (name : Option String)
  | index (number : Nat)

/-- Where something is wrong: the steps from the root and the position. -/
structure Place where
  path : List Segment
  mark : Mark

/-- A limit on how a document unfolds. -/
inductive Limit where
  /-- Collections are nested too deeply; the position is that of the first one too many. -/
  | depth (mark : Mark)
  /-- Aliases are repeated too often. -/
  | repetition
  deriving DecidableEq

/-- What is wrong with a well-formed document. -/
inductive Fault where
  | mismatch (cause : Mismatch) (place : Option Place)
  | limit (reached : Limit)

/-- A position, counted from one, unless it is the very beginning. -/
def Mark.suffix (mark : Mark) : String :=
  if mark.line = 0 ∧ mark.column = 0 then ""
  else " at line " ++ toString (mark.line + 1) ++ " column " ++ toString (mark.column + 1)

namespace Place

/-- A path as it is written, behind the text of the steps before. -/
def pathText (before : String) : List Segment → String
  | [] => before
  | .index number :: rest => pathText (before ++ "[" ++ toString number ++ "]") rest
  | .key name :: rest =>
    pathText ((if before = "" then "" else before ++ ".") ++ name.getD "?") rest

def wrap (place : Place) (message : String) : String :=
  (if place.path.isEmpty then "" else pathText "" place.path ++ ": ") ++ message ++
    place.mark.suffix

end Place

namespace Fault

def message : Fault → String
  | .mismatch cause none => cause.text
  | .mismatch cause (some place) => place.wrap cause.text
  | .limit (.depth mark) => "recursion limit exceeded" ++ mark.suffix
  | .limit .repetition => "repetition limit exceeded"

/-- A fault whose place is not yet known. -/
def unplaced (cause : Mismatch) : Fault := .mismatch cause none

/-- Places a fault at a position, unless its place is known. -/
def atMark (mark : Mark) : Fault → Fault
  | .mismatch cause none => .mismatch cause (some ⟨[], mark⟩)
  | other => other

/-- Moves a fault whose place is known one step away from what it holds. -/
def behind (segment : Segment) : Fault → Fault
  | .mismatch cause (some place) =>
    .mismatch cause (some { place with path := segment :: place.path })
  | other => other

end Fault

/-- Why a document cannot be read. -/
inductive Failure where
  /-- The text is not exactly one well-formed document. -/
  | malformed
  | fault (reason : Fault)

/-- The message of a failure; about a malformed text nothing is said. -/
def Failure.message? : Failure → Option String
  | .malformed => none
  | .fault reason => some reason.message

end OperatorSource.Yaml

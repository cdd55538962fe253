import OperatorSource.Decimal.Shortest
import OperatorSource.Text.Quoted

/-!
# Untyped values

Where a document may hold anything, it is read as a value. Keys of a mapping are compared by
meaning: the two zeros are one key, and so are two undefined numbers; the order of a mapping inside
a key does not matter.
-/

namespace OperatorSource.Yaml

open Decimal (Double)

inductive Value where
  | null
  | boolean (value : Bool)
  | integer (value : Int)
  | float (value : Double)
  | text (value : String)
  | sequence (items : List Value)
  | mapping (entries : List (Value × Value))
  | tagged (tag : String) (value : Value)

namespace Value

/-- A tag without one exclamation mark in front, unless that is all there is. -/
def tagName (tag : String) : String :=
  match tag.toList with
  | '!' :: first :: rest => String.ofList (first :: rest)
  | _ => tag

mutual

def same : Value → Value → Bool
  | .null, .null => true
  | .boolean left, .boolean right => left == right
  | .integer left, .integer right => left == right
  | .float left, .float right => left.same right
  | .text left, .text right => left == right
  | .sequence left, .sequence right => sameItems left right
  | .mapping left, .mapping right => left.length == right.length && sameEntries left right
  | .tagged tag left, .tagged other right => tagName tag == tagName other && same left right
  | _, _ => false

/-- Whether two lists hold the same keys in the same order. -/
def sameItems : List Value → List Value → Bool
  | [], [] => true
  | left :: lefts, right :: rights => same left right && sameItems lefts rights
  | _, _ => false

/-- Whether each of some entries is among some others. -/
def sameEntries : List (Value × Value) → List (Value × Value) → Bool
  | [], _ => true
  | (key, value) :: rest, others =>
    others.any (fun other => same key other.1 && same value other.2) && sameEntries rest others

end

/-- The text of a value that is one, whatever tags it bears. -/
def text? : Value → Option String
  | .text value => some value
  | .tagged _ value => value.text?
  | _ => none

/-- What a message calls a key that is there twice. -/
def keyText : Value → String
  | .null => "with null key"
  | .boolean value => "with key `" ++ toString value ++ "`"
  | .integer value => "with key " ++ toString value
  | .float value => "with key " ++ value.compactText
  | .text value => "with key " ++ Text.quote value
  | .sequence _ | .mapping _ | .tagged _ _ => "in YAML map"

end Value

end OperatorSource.Yaml

import OperatorSource.Decimal.Double

/-!
# The meaning of plain scalars

A plain scalar without a type from elsewhere is null, a boolean, an integer, a floating-point number
or a text, by its spelling. Integers are decimal, or hexadecimal, octal or binary behind a marker in
lower case. Two or more decimal digits that begin with a zero are a text. Integers beyond 64 bits
are told apart as long as they fit 128 bits; beyond that they are floating-point numbers.
-/

namespace OperatorSource.Yaml

open Decimal (Double)

/-- What the spelling of a scalar means. -/
inductive Scalar where
  | null
  | boolean (value : Bool)
  | integer (value : Int)
  /-- An integer that needs more than 64 bits. -/
  | wideInteger (value : Int)
  | float (value : Double)
  | text (value : String)
  deriving DecidableEq

namespace Scalar

/-- The spellings of null, apart from the empty one. -/
def isNullText (text : String) : Bool :=
  text == "~" || text == "null" || text == "Null" || text == "NULL"

def boolean? : String → Option Bool
  | "true" | "True" | "TRUE" => some true
  | "false" | "False" | "FALSE" => some false
  | _ => none

/-- A decimal text without the sign in front. -/
def withoutSign : List Char → List Char
  | '-' :: rest => rest
  | '+' :: rest => rest
  | unsigned => unsigned

/-- Whether a text is decimal digits that begin with a zero and go on, perhaps behind a sign. -/
def hasLeadingZero (text : List Char) : Bool :=
  match withoutSign text with
  | '0' :: second :: rest => (second :: rest).all Char.isDigit
  | _ => false

def digit? (base : Nat) (character : Char) : Option Nat :=
  let value :=
    if character.isDigit then some (character.toNat - '0'.toNat)
    else if 'a' ≤ character ∧ character ≤ 'z' then some (character.toNat - 'a'.toNat + 10)
    else if 'A' ≤ character ∧ character ≤ 'Z' then some (character.toNat - 'A'.toNat + 10)
    else none
  value.filter (· < base)

/-- The number that some digits write in some base; there must be at least one. -/
def digits? (base : Nat) : List Char → Option Nat
  | [] => none
  | digits =>
    digits.foldlM (fun number digit => (digit? base digit).map (base * number + ·)) 0

/-- The number that digits behind a marker of their base write; decimal ones have no marker. -/
def magnitude? : List Char → Option Nat
  | '0' :: 'x' :: digits => digits? 16 digits
  | '0' :: 'o' :: digits => digits? 8 digits
  | '0' :: 'b' :: digits => digits? 2 digits
  | digits => digits? 10 digits

/-- The integer without a minus sign that a text writes. -/
def natural? (text : List Char) : Option Nat :=
  if hasLeadingZero text then none
  else
    match text with
    | '+' :: unsigned => magnitude? unsigned
    | unsigned => magnitude? unsigned

/-- The amount of the integer with a minus sign that a text writes. -/
def negative? (text : List Char) : Option Nat :=
  if hasLeadingZero text then none
  else
    match text with
    | '-' :: unsigned => magnitude? unsigned
    | _ => none

def maxUnsigned : Nat := 0xFFFFFFFFFFFFFFFF

def maxSigned : Nat := 0x7FFFFFFFFFFFFFFF

def maxWideUnsigned : Nat := 0xFFFFFFFFFFFFFFFFFFFFFFFFFFFFFFFF

def maxWideSigned : Nat := 0x7FFFFFFFFFFFFFFFFFFFFFFFFFFFFFFF

/-- The integer, of at most 128 bits, that a text writes. -/
def integer? (text : List Char) : Option Scalar :=
  match natural? text, negative? text with
  | some number, _ =>
    if number ≤ maxUnsigned then some (.integer number)
    else if number ≤ maxWideUnsigned then some (.wideInteger number)
    else none
  | none, some amount =>
    if amount ≤ maxSigned + 1 then some (.integer (-amount))
    else if amount ≤ maxWideSigned + 1 then some (.wideInteger (-amount))
    else none
  | none, none => none

/-- The floating-point number that a text writes: a finite decimal one, or one of the spellings of
infinity and of an undefined number. -/
def float? (text : String) : Option Double :=
  let characters := text.toList
  let unsigned := match characters with
    | '+' :: rest => rest
    | rest => rest
  let doubled := characters.head? == some '+' &&
    (unsigned.head? == some '+' || unsigned.head? == some '-')
  if doubled then none
  else
    match String.ofList unsigned with
    | ".inf" | ".Inf" | ".INF" => some .infinity
    | _ =>
      match text with
      | "-.inf" | "-.Inf" | "-.INF" => some .negativeInfinity
      | ".nan" | ".NaN" | ".NAN" => some .nan
      | _ => (Double.ofText? unsigned).filter Double.isFinite

def ofPlain (text : String) : Scalar :=
  if text = "" ∨ isNullText text then .null
  else
    match boolean? text with
    | some value => .boolean value
    | none =>
      match integer? text.toList with
      | some value => value
      | none =>
        if hasLeadingZero text.toList then .text text
        else
          match float? text with
          | some value => .float value
          | none => .text text

end Scalar

end OperatorSource.Yaml

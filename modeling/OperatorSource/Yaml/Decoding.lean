import OperatorSource.Yaml.Tree

/-!
# Typed reading

A tree is read as a text, a number, a list, a record or an untyped value. Reading goes through a
document in order, and the first thing that does not fit is the one reported. A fault is placed at
the innermost node that can say where it is; each collection on the way out adds the step that leads
to it.

Records are mappings whose keys are the names of fields. A key that is no field is refused where it
stands; a field that is there twice, or is missing, is refused for the whole record.
-/

namespace OperatorSource.Yaml

/-- Places the fault of a failed reading at a position, unless its place is known. -/
def placedAt {α : Type} (mark : Mark) (reading : Except Fault α) : Except Fault α :=
  reading.mapError (Fault.atMark mark)

/-- Moves the fault of a failed reading one step away. -/
def inside {α : Type} (segment : Segment) (reading : Except Fault α) : Except Fault α :=
  reading.mapError (Fault.behind segment)

/-- The meaning of a scalar: by its tag, if it has one that says more, and otherwise by its
spelling. Only plain scalars are anything but texts by their spelling. -/
def scalarMeaning (tag : Option Tag) (style : ScalarStyle) (text : String) :
    Except Fault Scalar :=
  let require (found : Option Scalar) (expected : String) : Except Fault Scalar :=
    match found with
    | some value => .ok value
    | none => .error (.unplaced (.invalidValue (.scalar (.text text)) expected))
  let spelled := if style = .plain then Scalar.ofPlain text else .text text
  match tag with
  | none | some (.custom _) => .ok spelled
  | some .null => require (if Scalar.isNullText text then some .null else none) "null"
  | some .boolean => require ((Scalar.boolean? text).map .boolean) "a boolean"
  | some .integer => require (Scalar.integer? text.toList) "an integer"
  | some .float => require ((Scalar.float? text).map .float) "a float"
  | some .other => .ok (.text text)

namespace Tree

/-- The failure for a tree that is not what is expected. -/
def refuse {α : Type} (expected : String) : Tree → Except Fault α
  | .limited limit => .error (.limit limit)
  | .scalar mark tag style text => placedAt mark do
    let found ← scalarMeaning tag style text
    .error (.unplaced (.invalidType (.scalar found) expected))
  | .sequence mark _ _ => placedAt mark (.error (.unplaced (.invalidType .sequence expected)))
  | .mapping mark _ _ => placedAt mark (.error (.unplaced (.invalidType .mapping expected)))

/-- Reads a text: that of any scalar, as it is. -/
def readText : Tree → Except Fault String
  | .scalar _ _ _ text => .ok text
  | tree => tree.refuse "a string"

/-- Reads a scalar that is plain, or literal with the tag of its type. -/
def readPlain {α : Type} (core : Tag) (expected : String) (meaning : String → Option α)
    (tree : Tree) : Except Fault α :=
  match tree with
  | .scalar _ tag style text =>
    if style = .plain ∨ (style = .literal ∧ tag = some core) then
      match meaning text with
      | some value => .ok value
      | none => tree.refuse expected
    else tree.refuse expected
  | _ => tree.refuse expected

def readBoolean (tree : Tree) : Except Fault Bool :=
  tree.readPlain .boolean "a boolean" Scalar.boolean?

/-- The signed integer of 64 bits that a text writes. -/
def signed? (text : String) : Option Int64 :=
  match Scalar.natural? text.toList, Scalar.negative? text.toList with
  | some number, _ => if number ≤ Scalar.maxSigned then some (Int64.ofNat number) else none
  | none, some amount =>
    if amount ≤ Scalar.maxSigned + 1 then some (Int64.ofInt (-amount)) else none
  | none, none => none

def readSigned (tree : Tree) : Except Fault Int64 := tree.readPlain .integer "i64" signed?

/-- The unsigned integer of 64 bits that a text writes. -/
def unsigned? (text : String) : Option Nat :=
  (Scalar.natural? text.toList).filter (· ≤ Scalar.maxUnsigned)

def readUnsigned (tree : Tree) : Except Fault Nat := tree.readPlain .integer "usize" unsigned?

/-- Reads items in order, the first of them at index `index`. -/
def readItems {α : Type} (read : Tree → Except Fault α) (index : Nat) :
    List Tree → Except Fault (List α)
  | [] => .ok []
  | item :: rest => do
    let value ← inside (.index index) (read item)
    let values ← readItems read (index + 1) rest
    return value :: values

/-- Reads a list. An empty plain scalar is an empty list. -/
def readList {α : Type} (read : Tree → Except Fault α) : Tree → Except Fault (List α)
  | .sequence mark _ items => placedAt mark (readItems read 0 items)
  | .scalar _ _ .plain "" => .ok []
  | tree => tree.refuse "a sequence"

/-- Reads something that may be left out. A plain null is left out; a tag for null on any other
plain scalar is refused, but not placed here. -/
def readOptional {α : Type} (read : Tree → Except Fault α) (tree : Tree) :
    Except Fault (Option α) :=
  match tree with
  | .scalar _ tag .plain text =>
    match tag with
    | some .null =>
      if Scalar.isNullText text then .ok none
      else .error (.unplaced (.invalidValue (.scalar (.text text)) "null"))
    | some _ => some <$> read tree
    | none => if text = "" ∨ Scalar.isNullText text then .ok none else some <$> read tree
  | _ => some <$> read tree

/-- How a record is read: its name in messages, the names of its fields in order, and how the value
of a field is added to what was read before. -/
structure Record (σ : Type) where
  expected : String
  fields : List String
  read : String → Tree → σ → Except Fault σ

/-- Reads a key as the name of one of the fields. -/
def readFieldName (fields : List String) : Tree → Except Fault String
  | .scalar mark _ _ name =>
    if name ∈ fields then .ok name
    else placedAt mark (.error (.unplaced (.unknownField name fields)))
  | tree => tree.refuse "field identifier"

/-- Reads the entries of a record in order, after those with the names `seen`. -/
def readFields {σ : Type} (record : Record σ) (seen : List String) (state : σ) :
    List (Option String × Tree × Tree) → Except Fault σ
  | [] => .ok state
  | (key, name, value) :: rest => do
    let field ← readFieldName record.fields name
    if field ∈ seen then .error (.unplaced (.duplicateField field))
    else
      let next ← inside (.key key) (record.read field value state)
      readFields record (field :: seen) next rest

/-- Reads a record and ends it, which may find a field missing. An empty plain scalar is a record
without entries. -/
def readRecord {σ α : Type} (record : Record σ) (start : σ) (finish : σ → Except Mismatch α) :
    Tree → Except Fault α
  | .mapping mark _ entries => placedAt mark do
    let state ← readFields record [] start entries
    (finish state).mapError .unplaced
  | .scalar mark _ .plain "" => placedAt mark ((finish start).mapError .unplaced)
  | tree => tree.refuse record.expected

/-- The value of a scalar; an integer beyond 64 bits has none. -/
def scalarValue : Scalar → Except Fault Value
  | .null => .ok .null
  | .boolean value => .ok (.boolean value)
  | .integer value => .ok (.integer value)
  | .wideInteger value =>
    .error (.unplaced (.invalidType (.scalar (.wideInteger value)) "any YAML value"))
  | .float value => .ok (.float value)
  | .text value => .ok (.text value)

/-- A value under a tag, if the tag is a custom one with a name. -/
def tagValue (tag : Option Tag) (value : Value) : Value :=
  match tag with
  | some (.custom (some name)) => .tagged name value
  | _ => value

/-- The value of a scalar under a tag. Below a custom tag the spelling decides. -/
def readScalar (tag : Option Tag) (style : ScalarStyle) (text : String) : Except Fault Value := do
  return tagValue tag (← scalarValue (← scalarMeaning tag style text))

mutual

def readValue : Tree → Except Fault Value
  | .limited limit => .error (.limit limit)
  | .scalar mark tag style text => placedAt mark (readScalar tag style text)
  | .sequence mark tag items => placedAt mark do
    return tagValue tag (.sequence (← readValues 0 items))
  | .mapping mark tag entries => placedAt mark do
    return tagValue tag (.mapping (← readEntries [] entries))

/-- Reads untyped items in order, the first of them at index `index`. -/
def readValues (index : Nat) : List Tree → Except Fault (List Value)
  | [] => .ok []
  | item :: rest => do
    let value ← inside (.index index) (readValue item)
    let values ← readValues (index + 1) rest
    return value :: values

/-- Reads untyped entries in order, after those with the keys `seen`. -/
def readEntries (seen : List Value) :
    List (Option String × Tree × Tree) → Except Fault (List (Value × Value))
  | [] => .ok []
  | (name, key, value) :: rest => do
    let keyValue ← readValue key
    match seen.find? (fun earlier => earlier.same keyValue) with
    | some earlier => .error (.unplaced (.duplicateKey earlier))
    | none =>
      let entryValue ← inside (.key name) (readValue value)
      let entries ← readEntries (keyValue :: seen) rest
      return (keyValue, entryValue) :: entries

end

/-- Reads an untyped mapping. An empty plain scalar is an empty mapping. -/
def readMapping : Tree → Except Fault (List (Value × Value))
  | .mapping mark _ entries => placedAt mark (readEntries [] entries)
  | .scalar _ _ .plain "" => .ok []
  | tree => tree.refuse "a YAML mapping"

/-- Reads one of some named variants: by a custom tag in front of nothing or null, or by the text of
a scalar without one. -/
def readVariant {α : Type} (variant? : String → Option α) (known : List String) :
    Tree → Except Fault α
  | .limited limit => .error (.limit limit)
  | .scalar mark (some (.custom (some name))) style text =>
    match variant? name with
    | none => .error (.unplaced (.unknownVariant name known))
    | some variant =>
      if style = .plain ∧ (text = "" ∨ Scalar.isNullText text) then .ok variant
      else placedAt mark
        (.error (.unplaced (.invalidValue (.scalar (.text text)) "null")))
  | .scalar mark _ _ text =>
    match variant? text with
    | some variant => .ok variant
    | none => placedAt mark (.error (.unplaced (.unknownVariant text known)))
  | .sequence mark (some (.custom (some name))) items =>
    match variant? name with
    | none => .error (.unplaced (.unknownVariant name known))
    | some _ => (Tree.sequence mark none items).refuse "unit"
  | .mapping mark (some (.custom (some name))) entries =>
    match variant? name with
    | none => .error (.unplaced (.unknownVariant name known))
    | some _ => (Tree.mapping mark none entries).refuse "unit"
  | tree => tree.refuse "a YAML tag starting with '!'"

end Tree

end OperatorSource.Yaml

import OperatorSource.Request.Error
import OperatorSource.Yaml.Decoding

/-!
# Specification documents

A specification is a YAML record that describes one operator: its name, a mapping from attribute
names to type tags, lists of single pairs of name and type for inputs and outputs, a list of shape
rules, and the kernel. Only the name must be there. A shape rule gives an output and either
dimensions or an input; a kernel gives its class and possibly a device and headers.
-/

namespace OperatorSource

open Yaml (Fault Mismatch Tree Value)

/-- A shape rule as it is written. -/
structure RuleEntry where
  output : Nat
  dimensions : Option (List Int64) := none
  likeInput : Option Nat := none

/-- A specification as it is written; attributes, inputs and outputs may still be anything. -/
structure Specification where
  name : String
  attributes : Option (List (Value × Value)) := none
  inputs : Option (List Value) := none
  outputs : Option (List Value) := none
  shapeRules : Option (List RuleEntry) := none
  kernel : Option KernelBinding := none

/-- A required field of a record, which is missing where it was not read. -/
def requireField {α : Type} (name : String) : Option α → Except Mismatch α
  | some value => .ok value
  | none => .error (.missingField name)

namespace RuleEntry

structure Draft where
  output : Option Nat := none
  dimensions : Option (List Int64) := none
  likeInput : Option Nat := none

def record : Tree.Record Draft where
  expected := "struct RawShapeRule"
  fields := ["output", "dims", "same_as_input"]
  read field tree entry :=
    match field with
    | "output" => do return { entry with output := some (← tree.readUnsigned) }
    | "dims" => do
      return { entry with dimensions := ← tree.readOptional (Tree.readList Tree.readSigned) }
    | _ => do return { entry with likeInput := ← tree.readOptional Tree.readUnsigned }

/-- Ends a shape rule, which must have an output. -/
def ofDraft (entry : Draft) : Except Mismatch RuleEntry := do
  return {
    output := ← requireField "output" entry.output
    dimensions := entry.dimensions
    likeInput := entry.likeInput }

def ofTree (tree : Tree) : Except Fault RuleEntry := tree.readRecord record {} ofDraft

end RuleEntry

def Device.ofName? : String → Option Device
  | "cpu" => some .cpu
  | _ => none

namespace KernelBinding

structure Draft where
  className : Option String := none
  device : Device := .cpu
  headers : List String := []

def record : Yaml.Tree.Record Draft where
  expected := "struct RawKernel"
  fields := ["class", "device", "headers"]
  read field tree entry :=
    match field with
    | "class" => do return { entry with className := some (← tree.readText) }
    | "device" => do
      return { entry with device := ← tree.readVariant Device.ofName? ["cpu"] }
    | _ => do return { entry with headers := ← tree.readList Tree.readText }

/-- Ends a kernel, which must have a class. -/
def ofDraft (entry : Draft) : Except Mismatch KernelBinding := do
  return {
    className := ← requireField "class" entry.className
    device := entry.device
    headers := entry.headers }

def ofTree (tree : Tree) : Except Fault KernelBinding := tree.readRecord record {} ofDraft

end KernelBinding

namespace Specification

structure Draft where
  name : Option String := none
  attributes : Option (List (Value × Value)) := none
  inputs : Option (List Value) := none
  outputs : Option (List Value) := none
  shapeRules : Option (List RuleEntry) := none
  kernel : Option KernelBinding := none

def record : Tree.Record Draft where
  expected := "struct RawRequest"
  fields := ["name", "attributes", "inputs", "outputs", "shape_rules", "kernel"]
  read field tree entry :=
    match field with
    | "name" => do return { entry with name := some (← tree.readText) }
    | "attributes" => do
      return { entry with attributes := ← tree.readOptional Tree.readMapping }
    | "inputs" => do
      return { entry with inputs := ← tree.readOptional (Tree.readList Tree.readValue) }
    | "outputs" => do
      return { entry with outputs := ← tree.readOptional (Tree.readList Tree.readValue) }
    | "shape_rules" => do
      return { entry with shapeRules := ← tree.readOptional (Tree.readList RuleEntry.ofTree) }
    | _ => do return { entry with kernel := ← tree.readOptional KernelBinding.ofTree }

/-- Ends a specification, which must have a name. -/
def ofDraft (entry : Draft) : Except Mismatch Specification := do
  return {
    name := ← requireField "name" entry.name
    attributes := entry.attributes
    inputs := entry.inputs
    outputs := entry.outputs
    shapeRules := entry.shapeRules
    kernel := entry.kernel }

def ofTree (tree : Tree) : Except Fault Specification := tree.readRecord record {} ofDraft

end Specification

end OperatorSource

import OperatorSource.Request.Basic

/-!
# Builtin operators

The catalog of operators that come with the generator. Each has a name, a one-line summary and the
request that its source file is generated from.
-/

namespace OperatorSource

/-- What a registry knows of an operator. -/
structure CatalogEntry where
  /-- The one-line description in the list of operators. -/
  summary : String
  /-- The request that the source file of the operator is generated from. -/
  request : Request
  deriving DecidableEq

/-- An operator that comes with the generator. -/
inductive Builtin where
  | zero
  | layerNorm
  | batchNorm
  | periodicShuffle
  deriving DecidableEq

namespace Builtin

def all : List Builtin := [.zero, .layerNorm, .batchNorm, .periodicShuffle]

def name : Builtin → String
  | .zero => "Zero"
  | .layerNorm => "Lnorm"
  | .batchNorm => "Bnorm"
  | .periodicShuffle => "PeriodicShuffle"

def summary : Builtin → String
  | .zero => "int32[1000] -> zeros, Halide kernel halide_zero_op"
  | .layerNorm => "layer norm (input, gamma, beta), output shaped like input"
  | .batchNorm => "batch norm (input, gamma, beta, mean, var), output shaped like input"
  | .periodicShuffle => "periodic shuffle by attribute r, no fixed output shape"

/-- The request of a builtin operator. The shape of a periodic shuffle depends on its attribute,
which no rule can express, so it has none. -/
def request (builtin : Builtin) : Request :=
  match builtin with
  | .zero => {
    signature := {
      name := builtin.name
      inputs := [⟨"to_zero", "int32"⟩]
      outputs := [⟨"zeroed", "int32"⟩] }
    shapeRules := [⟨0, .fixed [1000]⟩]
    kernel := some { className := "ZeroOp", headers := ["gen_halide_zero_op.h"] } }
  | .layerNorm => {
    signature := {
      name := builtin.name
      inputs := [⟨"input", "float"⟩, ⟨"gamma", "float"⟩, ⟨"beta", "float"⟩]
      outputs := [⟨"norm", "float"⟩] }
    shapeRules := [⟨0, .likeInput 0⟩]
    kernel := some {
      className := "LnormOp", headers := ["gen_halide_ln_2d.h", "gen_halide_ln_4d.h"] } }
  | .batchNorm => {
    signature := {
      name := builtin.name
      inputs := [⟨"input", "float"⟩, ⟨"gamma", "float"⟩, ⟨"beta", "float"⟩, ⟨"mean", "float"⟩,
        ⟨"var", "float"⟩]
      outputs := [⟨"norm", "float"⟩] }
    shapeRules := [⟨0, .likeInput 0⟩]
    kernel := some { className := "BnormOp", headers := ["gen_halide_bn.h"] } }
  | .periodicShuffle => {
    signature := {
      name := builtin.name
      attributes := [⟨"r", .scalar TypeTag.int32.text⟩]
      inputs := [⟨"input", "float"⟩]
      outputs := [⟨"shuffle", "float"⟩] }
    kernel := some { className := "PeriodicShuffleOp", headers := ["gen_periodic_shuffle.h"] } }

/-- What a registry knows of a builtin operator. -/
def entry (builtin : Builtin) : CatalogEntry := ⟨builtin.summary, builtin.request⟩

end Builtin

/-- The named entries of all builtin operators. -/
def inventory : List (String × CatalogEntry) :=
  Builtin.all.map (fun builtin => (builtin.name, builtin.entry))

end OperatorSource

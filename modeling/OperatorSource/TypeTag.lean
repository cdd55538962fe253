/-!
# The type vocabulary

Attributes are declared with one of seventeen type tags. Each tag has the exact spelling that stands
in a registration clause and belongs to one of four coarse classes. Kernels are registered for a
device; the CPU is the only one so far.
-/

namespace OperatorSource

/-- Coarse grouping of the type vocabulary. -/
inductive TypeClass where
  | floating
  | integer
  | boolean
  | quantized
  deriving DecidableEq

def TypeClass.text : TypeClass → String
  | .floating => "floating"
  | .integer => "integer"
  | .boolean => "boolean"
  | .quantized => "quantized"

/-- A type tag that attribute declarations may use. -/
inductive TypeTag where
  | float
  | double
  | int8
  | int16
  | int32
  | int64
  | uint8
  | uint16
  | bool
  | qint8
  | qint16
  | qint32
  | quint8
  | quint16
  | quint32
  | bfloat16
  | half
  deriving DecidableEq

namespace TypeTag

/-- Every tag, in vocabulary order. -/
def all : List TypeTag :=
  [.float, .double, .int8, .int16, .int32, .int64, .uint8, .uint16, .bool, .qint8, .qint16, .qint32,
    .quint8, .quint16, .quint32, .bfloat16, .half]

/-- The tag as it is written in a registration clause. -/
def text : TypeTag → String
  | .float => "float"
  | .double => "double"
  | .int8 => "int8"
  | .int16 => "int16"
  | .int32 => "int32"
  | .int64 => "int64"
  | .uint8 => "uint8"
  | .uint16 => "uint16"
  | .bool => "bool"
  | .qint8 => "qint8"
  | .qint16 => "qint16"
  | .qint32 => "qint32"
  | .quint8 => "quint8"
  | .quint16 => "quint16"
  | .quint32 => "quint32"
  | .bfloat16 => "bfloat16"
  | .half => "half"

def typeClass : TypeTag → TypeClass
  | .float | .double | .bfloat16 | .half => .floating
  | .int8 | .int16 | .int32 | .int64 | .uint8 | .uint16 => .integer
  | .bool => .boolean
  | .qint8 | .qint16 | .qint32 | .quint8 | .quint16 | .quint32 => .quantized

/-- The tag with exactly this spelling, upper and lower case told apart. -/
def ofText? (text : String) : Option TypeTag :=
  all.find? (fun tag => tag.text == text)

end TypeTag

/-- A device that a kernel is registered for. -/
inductive Device where
  | cpu
  deriving DecidableEq

/-- The constant that names the device in a kernel registration. -/
def Device.constant : Device → String
  | .cpu => "DEVICE_CPU"

end OperatorSource

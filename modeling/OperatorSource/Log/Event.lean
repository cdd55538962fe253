import OperatorSource.Text.Quoted

/-!
# Log events

The steps of a generation are reported as events. An event says what happened; its level, the
target that filters match on, its message and its fields follow from that. Two texts show an event:
`text` leaves every field as it is, `line` quotes the one field that is logged as a string value.
-/

namespace OperatorSource.Log

/-- How important an event is, from the least to the most detailed. -/
inductive Level where
  | error
  | warn
  | info
  | debug
  | trace
  deriving DecidableEq

/-- The position of a level among the levels; a filter lets through what is not above its own. -/
def Level.rank : Level → Nat
  | .error => 1
  | .warn => 2
  | .info => 3
  | .debug => 4
  | .trace => 5

/-- The name of a level at the beginning of a log line. -/
def Level.text : Level → String
  | .error => "ERROR"
  | .warn => "WARN"
  | .info => "INFO"
  | .debug => "DEBUG"
  | .trace => "TRACE"

inductive Event where
  /-- A request was accepted; the counts are the lengths of its four lists. -/
  | requestValidated (operator : String) (attributes inputs outputs shapeRules : Nat)
  /-- A shape rule is for an output that an earlier rule already assigned. -/
  | duplicateRule (operator : String) (output : Nat)
  /-- The fragments of a source file were built. -/
  | fragmentsBuilt (operator : String) (kernel : Option String)
  /-- A source file was rendered to so many bytes. -/
  | sourceRendered (operator : String) (bytes : Nat)
  /-- The builtin operators were added to a registry that now has so many names. -/
  | builtinsCollected (count : Nat)
  /-- A source file was written. -/
  | sourceWritten (path : String) (bytes : Nat)
  /-- A specification was loaded from a file. -/
  | specificationLoaded (operator path : String)
  deriving DecidableEq

namespace Event

def level : Event → Level
  | .duplicateRule _ _ => .warn
  | .sourceWritten _ _ | .specificationLoaded _ _ => .info
  | .requestValidated _ _ _ _ _ | .fragmentsBuilt _ _ | .sourceRendered _ _
  | .builtinsCollected _ => .debug

/-- The part of the program that raises an event, as log filters name it. -/
def target : Event → String
  | .requestValidated _ _ _ _ _ | .duplicateRule _ _ => "opgen_spec::validate"
  | .fragmentsBuilt _ _ | .sourceRendered _ _ | .sourceWritten _ _ => "opgen_generator"
  | .builtinsCollected _ => "opgen_ops"
  | .specificationLoaded _ _ => "opgen::commands::generate"

/-- The message and the fields of an event; `showKernel` writes the name of a kernel class. -/
def body (showKernel : String → String) : Event → String
  | .requestValidated operator attributes inputs outputs shapeRules =>
    "operator spec validated op=" ++ operator ++ " attributes=" ++ toString attributes ++
      " inputs=" ++ toString inputs ++ " outputs=" ++ toString outputs ++
      " shape_rules=" ++ toString shapeRules
  | .duplicateRule operator output =>
    "duplicate shape rule, the last assignment wins op=" ++ operator ++
      " output=" ++ toString output
  | .fragmentsBuilt operator none => "fragments built op=" ++ operator
  | .fragmentsBuilt operator (some kernel) =>
    "fragments built op=" ++ operator ++ " kernel=" ++ showKernel kernel
  | .sourceRendered operator bytes =>
    "module rendered op=" ++ operator ++ " bytes=" ++ toString bytes
  | .builtinsCollected count => "builtin operators collected count=" ++ toString count
  | .sourceWritten path bytes => "source written path=" ++ path ++ " bytes=" ++ toString bytes
  | .specificationLoaded operator path => "spec loaded op=" ++ operator ++ " spec=" ++ path

/-- An event with nothing escaped. -/
def text (event : Event) : String :=
  event.level.text ++ " " ++ event.body (fun kernel => "\"" ++ kernel ++ "\"")

/-- An event as it is logged: the name of a kernel class is quoted. -/
def line (event : Event) : String := event.level.text ++ " " ++ event.body Text.quote

end Event

end OperatorSource.Log

import OperatorSource.Files.Fault
import OperatorSource.Specification.Request

/-!
# Loading requests

A request is loaded from the text of a specification, or from a file that holds one. All faults of
the document as a whole come before any entry is looked at.
-/

namespace OperatorSource

inductive LoadError where
  | unreadable (fault : FileFault)
  | unparsable (failure : Yaml.Failure)
  | refused (error : RequestError)

namespace LoadError

/-- The message of a YAML failure; a malformed text has one of its own. -/
def failureText (failure : Yaml.Failure) : String :=
  failure.message?.getD "malformed document"

def message : LoadError → String
  | .unreadable fault => "failed to read spec file: " ++ fault.message
  | .unparsable failure => "failed to parse spec file: " ++ failureText failure
  | .refused error => error.message

/-- The message of the cause behind an error, if it is a failure of another part. -/
def cause? : LoadError → Option String
  | .unreadable fault => some fault.message
  | .unparsable failure => some (failureText failure)
  | .refused _ => none

end LoadError

namespace Request

def ofYaml (text : String) : Except LoadError Request :=
  match Yaml.Tree.ofText text with
  | .error failure => .error (.unparsable failure)
  | .ok tree =>
    match Specification.ofTree tree with
    | .error fault => .error (.unparsable (.fault fault))
    | .ok specification => specification.request.mapError .refused

/-- The request of a specification file; `read` gives the content of a file. -/
def load (read : String → Except FileFault String) (path : String) : Except LoadError Request :=
  match read path with
  | .error fault => .error (.unreadable fault)
  | .ok content => ofYaml content

end Request

end OperatorSource

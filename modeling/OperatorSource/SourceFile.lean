import OperatorSource.Fragment.Lines
import OperatorSource.Settings.Basic

/-!
# The layout of a source file

A generated file includes the headers of the framework and then those of the kernel, opens the
namespace, registers the operator and, where a kernel is bound, defines its class and registers it.
Blank lines stand between these parts. Nothing is checked here; the parts are laid out as given.
-/

namespace OperatorSource

structure SourceFile where
  /-- The headers that the kernel needs, after those of the framework. -/
  headers : List String
  registration : Fragment
  kernelClass : Option Fragment := none
  kernelRegistration : Option Fragment := none

/-- What is between the angle brackets of a text that begins and ends with them. -/
def bracketed? (text : String) : Option String :=
  match text.toList with
  | '<' :: rest => if rest.getLast? = some '>' then some (String.ofList rest.dropLast) else none
  | _ => none

/-- The directive for one header: one written in angle brackets is a system header. -/
def headerInclude (header : String) : Fragment :=
  match bracketed? header with
  | some path => .systemInclude path
  | none => .quotedInclude header

namespace SourceFile

def fragment (file : SourceFile) (settings : Settings) : Fragment :=
  .group ((settings.frameworkHeaders ++ file.headers).map headerInclude ++
    [.blank, .lineStatement ("using namespace " ++ settings.namespaceName), .blank,
      file.registration] ++
    (file.kernelClass.toList ++ file.kernelRegistration.toList).flatMap (fun part =>
      [.blank, part]))

def text (file : SourceFile) (settings : Settings) : String := (file.fragment settings).render

end SourceFile

end OperatorSource

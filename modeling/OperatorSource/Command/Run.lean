import OperatorSource.Command.Arguments
import OperatorSource.Log.Filter

/-!
# Running the program

A run ends with an exit code, and leaves what was printed, what was logged, and the files. Events go
to the log as far as the filter lets them through; after them comes the message of a failed command,
with its causes. The filter is the given one, if there is one and it is well-formed, and otherwise
follows from the verbosity.
-/

namespace OperatorSource

/-- What a run of the program leaves behind. -/
structure RunResult (Files : Type) where
  code : Nat
  output : String
  log : String
  files : Files

namespace RunResult

/-- The level that a verbosity asks for. -/
def levelOf : (verbosity : Nat) → Log.Level
  | 0 => .warn
  | 1 => .info
  | 2 => .debug
  | _ => .trace

def filterOf (given : Option String) (verbosity : Nat) : Log.Filter :=
  (given.bind Log.Filter.ofText?).getD (.ofLevel (levelOf verbosity))

/-- A text whose lines after the first are indented. -/
def hanging (indentation text : String) : String :=
  ("\n" ++ indentation).intercalate (text.splitOn "\n")

/-- One cause, with its number if there are several. -/
def causeText (several : Bool) (index : Nat) (cause : String) : String :=
  if several then
    let number := toString index
    String.ofList (List.replicate (5 - number.length) ' ') ++ number ++ ": " ++
      hanging "       " cause
  else "    " ++ hanging "    " cause

/-- The message of a failed command: what failed, and its causes below. -/
def errorText : (chain : List String) → String
  | [] => ""
  | [message] => "Error: " ++ message ++ "\n"
  | message :: causes =>
    "Error: " ++ message ++ "\n\nCaused by:\n" ++
      unlines (causes.mapIdx (causeText (1 < causes.length)))

/-- The log of a run that raised some events and may have failed. -/
def logText (filter : Log.Filter) (events : List Log.Event) (error : Option CommandError) :
    String :=
  unlines ((events.filter filter.allows).map Log.Event.line) ++
    ((error.map (fun reason => errorText reason.chain)).getD "")

def versionText : String := "opgen 0.1.0\n"

def usageText : String :=
  "Usage: opgen [-c CONFIG] [-v]... <generate SPEC | builtin NAME | list | types>\n"

/-- Runs the program on some files with some arguments, and with a log filter if one is given. -/
def ofRun {Files : Type} [FileSystem Files] (files : Files) (filter : Option String)
    (arguments : List String) : RunResult Files :=
  match Invocation.ofArguments arguments with
  | .misuse => { code := 2, output := "", log := usageText, files }
  | .help => { code := 0, output := usageText, log := "", files }
  | .version => { code := 0, output := versionText, log := "", files }
  | .run command verbosity =>
    let (outcome, world) := command.execute.run { files }
    let error := match outcome.result with
      | .ok _ => none
      | .error error => some error
    { code := if error.isSome then 1 else 0
      output := world.printed
      log := logText (filterOf filter verbosity) outcome.events error
      files := world.files }

end RunResult

end OperatorSource

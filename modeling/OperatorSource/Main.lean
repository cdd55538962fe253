import OperatorSource.Command.Run

/-!
# The program

The outer layer: it reads the files that a command names, lets the command be prepared, performs
its one effect, and prints the log.
-/

namespace OperatorSource.Program

/-- The reason that the operating system gives. A code may come with either sign. -/
def faultOf (error : IO.Error) : FileFault :=
  match error with
  | .noFileOrDirectory _ _ _ => .notFound
  | .inappropriateType _ code _ =>
    if code = 20 ∨ -code = 20 then .notDirectory
    else if code = 21 ∨ -code = 21 then .isDirectory
    else .other (toString error)
  | other => .other (toString other)

/-- Tries an action on a file. -/
def attempt {α : Type} (action : IO α) : IO (Except FileFault α) := do
  match ← action.toBaseIO with
  | .ok value => return .ok value
  | .error error => return .error (faultOf error)

def sources : Command → List String
  | .generate path config _ _ => path :: config.toList
  | .builtin _ config _ => config.toList
  | .list | .types => []

def perform : Product → IO (Traced CommandError Unit)
  | .listing text | .source _ text .standardOutput => do
    let output ← IO.getStdout
    output.putStr text
    output.flush
    return pure ()
  | .source subject text (.file path) => do
    let outcome ← attempt (IO.FS.writeFile path text)
    return (reportWrite path text outcome).mapError (.delivery subject)

/-- Runs a command; gives what it reports and how it ends. -/
def execute (command : Command) : IO (Traced CommandError Unit) := do
  let contents ← (sources command).mapM (fun (path : String) => do
    return (path, ← attempt (IO.FS.readFile path)))
  let read (path : String) : Except FileFault String :=
    (contents.lookup path).getD (.error .notFound)
  let prepared := command.prepare read
  match prepared.result with
  | .error error => return ⟨prepared.events, .error error⟩
  | .ok product =>
    let performed ← perform product
    return ⟨prepared.events ++ performed.events, performed.result⟩

end OperatorSource.Program

open OperatorSource in
def main (arguments : List String) : IO UInt32 := do
  match Invocation.ofArguments arguments with
  | .misuse =>
    IO.eprint RunResult.usageText
    return 2
  | .help =>
    IO.print RunResult.usageText
    return 0
  | .version =>
    IO.print RunResult.versionText
    return 0
  | .run command verbosity =>
    let filter := RunResult.filterOf (← IO.getEnv "RUST_LOG") verbosity
    let outcome ← Program.execute command
    match outcome.result with
    | .ok _ =>
      IO.eprint (RunResult.logText filter outcome.events none)
      return 0
    | .error error =>
      IO.eprint (RunResult.logText filter outcome.events (some error))
      return 1

import OperatorSource.Command.Basic

/-!
# Command line arguments

Arguments are read from left to right, first those of the program itself and then those of the
command that is named. Options have a long name, some also a letter; letters may be joined. The
value of an option is attached to it, with or without an equals sign after a letter, or is the next
argument, which must not look like an option. After two dashes nothing is an option any more. The
options for settings and verbosity may stand on either side of the name of the command; where they
stand on both, the later ones count.
-/

namespace OperatorSource

inductive Invocation where
  | run (command : Command) (verbosity : Nat)
  | version
  | help
  /-- The arguments are not understood. -/
  | misuse
  deriving DecidableEq

namespace Invocation

/-- An option of the program or of a command. -/
inductive Flag where
  | config
  | verbose
  | help
  | version
  | output
  | strict
  deriving DecidableEq

/-- Whether an option has a value. -/
def Flag.takesValue : Flag → Bool
  | .config | .output => true
  | _ => false

/-- Whose arguments are read. -/
inductive Scope where
  | program
  | generate
  | builtin
  | list
  | types
  deriving DecidableEq

namespace Scope

def flags : Scope → List Flag
  | .program => [.config, .verbose, .help, .version]
  | .generate => [.config, .verbose, .help, .output, .strict]
  | .builtin => [.config, .verbose, .help, .output]
  | .list | .types => [.config, .verbose, .help]

def long? (scope : Scope) (name : String) : Option Flag :=
  let flag? : Option Flag := match name with
    | "config" => some .config
    | "verbose" => some .verbose
    | "help" => some .help
    | "version" => some .version
    | "output" => some .output
    | "strict" => some .strict
    | _ => none
  flag?.filter (fun flag => flag ∈ scope.flags)

def short? (scope : Scope) (letter : Char) : Option Flag :=
  let flag? : Option Flag := match letter with
    | 'c' => some .config
    | 'v' => some .verbose
    | 'h' => some .help
    | 'V' => some .version
    | 'o' => some .output
    | _ => none
  flag?.filter (fun flag => flag ∈ scope.flags)

/-- The number of arguments of a scope that are no options. -/
def operands : Scope → Nat
  | .generate | .builtin => 1
  | _ => 0

/-- The scope that a command name opens. -/
def ofName? : String → Option Scope
  | "generate" => some .generate
  | "builtin" => some .builtin
  | "list" => some .list
  | "types" => some .types
  | _ => none

end Scope

/-- The arguments of a scope so far. -/
structure Given where
  config : Option String := none
  verbosity : Nat := 0
  output : Option String := none
  strict : Bool := false
  operands : List String := []

/-- Why reading arguments ends early. -/
abbrev Early := Invocation

/-- A path given once; it may not be empty. -/
def setPath (earlier : Option String) (path : String) : Except Early (Option String) :=
  if earlier.isSome || path.isEmpty then .error .misuse else .ok (some path)

/-- Adds an option; options other than the one for verbosity may be given once. -/
def Given.add (given : Given) (flag : Flag) (value : String) : Except Early Given :=
  match flag with
  | .config => do return { given with config := ← setPath given.config value }
  | .output => do return { given with output := ← setPath given.output value }
  | .verbose => .ok { given with verbosity := given.verbosity + 1 }
  | .strict => if given.strict then .error .misuse else .ok { given with strict := true }
  | .help => .error .help
  | .version => .error .version

def Given.addOperand (given : Given) (scope : Scope) (operand : String) : Except Early Given :=
  if given.operands.length < scope.operands then
    .ok { given with operands := given.operands ++ [operand] }
  else .error .misuse

def looksLikeFlag (argument : String) : Bool :=
  match argument.toList with
  | '-' :: _ :: _ => true
  | _ => false

/-- Adds an option whose value is attached or else is the next argument; says how many of the
arguments behind it are used. -/
def addWithValue (given : Given) (flag : Flag) (attached : Option String)
    (rest : List String) : Except Early (Given × Nat) := do
  match attached, rest with
  | some value, _ => return (← given.add flag value, 0)
  | none, [] => throw .misuse
  | none, next :: _ =>
    if looksLikeFlag next then throw .misuse else return (← given.add flag next, 1)

/-- Adds a long option, given without its two dashes. -/
def addLong (scope : Scope) (given : Given) (text : List Char) (rest : List String) :
    Except Early (Given × Nat) := do
  let name := String.ofList (text.takeWhile (· ≠ '='))
  let attached := match text.dropWhile (· ≠ '=') with
    | [] => none
    | _ :: value => some (String.ofList value)
  match scope.long? name with
  | none => throw .misuse
  | some flag =>
    if flag.takesValue then addWithValue given flag attached rest
    else if attached.isSome then throw .misuse
    else return (← given.add flag "", 0)

/-- Adds options given by joined letters; an option with a value ends them. -/
def addShort (scope : Scope) (given : Given) (rest : List String) :
    List Char → Except Early (Given × Nat)
  | [] => return (given, 0)
  | letter :: letters => do
    match scope.short? letter with
    | none => throw .misuse
    | some flag =>
      if flag.takesValue then
        let attached := match letters with
          | [] => none
          | '=' :: value => some (String.ofList value)
          | value => some (String.ofList value)
        addWithValue given flag attached rest
      else addShort scope (← given.add flag "") rest letters

/-- Adds one argument, and the next one if it belongs to it. -/
def addArgument (scope : Scope) (given : Given) (argument : String) (rest : List String) :
    Except Early (Given × Nat) :=
  match argument.toList with
  | '-' :: '-' :: text => addLong scope given text rest
  | '-' :: letter :: letters => addShort scope given rest (letter :: letters)
  | _ => do return (← given.addOperand scope argument, 0)

def readCommand (scope : Scope) (given : Given) (arguments : List String) : Except Early Given :=
  match arguments with
  | [] => .ok given
  | "--" :: rest => rest.foldlM (fun current operand => current.addOperand scope operand) given
  | argument :: rest =>
    match addArgument scope given argument rest with
    | .error early => .error early
    | .ok (next, used) => readCommand scope next (rest.drop used)
termination_by arguments.length
decreasing_by simp only [List.length_cons, List.length_drop]; omega

/-- The command that its scope and the arguments give. -/
def command (scope : Scope) (program given : Given) : Invocation :=
  let config := given.config <|> program.config
  let verbosity := if given.verbosity = 0 then program.verbosity else given.verbosity
  match scope, given.operands with
  | .generate, [path] =>
    if path.isEmpty then .misuse
    else .run (.generate path config given.output given.strict) verbosity
  | .builtin, [name] => .run (.builtin name config given.output) verbosity
  | .list, [] => .run .list verbosity
  | .types, [] => .run .types verbosity
  | _, _ => .misuse

/-- Asks for help about the program or about one of its commands. -/
def helpAbout : List String → Invocation
  | [] | ["help"] => .help
  | [name] => if (Scope.ofName? name).isSome then .help else .misuse
  | _ => .misuse

/-- Reads the arguments of the program up to the name of a command, and then those of the
command. -/
def readProgram (program : Given) (arguments : List String) : Invocation :=
  match arguments with
  | [] => .misuse
  | argument :: rest =>
    if argument = "--" then .misuse
    else if looksLikeFlag argument then
      match addArgument .program program argument rest with
      | .error early => early
      | .ok (next, used) => readProgram next (rest.drop used)
    else if argument = "help" then helpAbout rest
    else
      match Scope.ofName? argument with
      | none => .misuse
      | some scope =>
        match readCommand scope {} rest with
        | .error early => early
        | .ok given => command scope program given
termination_by arguments.length
decreasing_by simp only [List.length_cons, List.length_drop]; omega

def ofArguments (arguments : List String) : Invocation := readProgram {} arguments

end Invocation

end OperatorSource

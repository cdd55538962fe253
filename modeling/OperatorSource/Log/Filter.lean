import OperatorSource.Log.Event

/-!
# Log filters

A filter says which events are logged. It is a list of directives: each lets the events of a target
through up to a level, and a directive without a target is for all events. For an event the
directive with the longest matching target decides; where none matches, the event is not logged.
-/

namespace OperatorSource.Log

/-- Lets events through whose target begins with a text, up to a level; no level lets none
through. -/
structure Directive where
  target : String
  level : Option Level
  deriving DecidableEq

structure Filter where
  directives : List Directive

namespace Filter

/-- The filter that lets all events through up to a level. -/
def ofLevel (level : Level) : Filter := ⟨[⟨"", some level⟩]⟩

/-- The directive that decides about a target: of those that match it, the one with the longest
target, and the last of several. -/
def decisive? (filter : Filter) (target : String) : Option Directive :=
  filter.directives.foldl (fun best directive =>
    if target.startsWith directive.target then
      match best with
      | none => some directive
      | some earlier =>
        if earlier.target.length ≤ directive.target.length then some directive else best
    else best) none

def allows (filter : Filter) (event : Event) : Bool :=
  match filter.decisive? event.target with
  | some ⟨_, some level⟩ => event.level.rank ≤ level.rank
  | _ => false

/-- The level with a name or a number; zero, or the word for it, is no level at all. -/
def level? (text : String) : Option (Option Level) :=
  match String.ofList (text.toList.map Char.toLower) with
  | "off" | "0" => some none
  | "" | "error" | "1" => some (some .error)
  | "warn" | "2" => some (some .warn)
  | "info" | "3" => some (some .info)
  | "debug" | "4" => some (some .debug)
  | "trace" | "5" => some (some .trace)
  | _ => none

def isTarget (text : List Char) : Bool :=
  text.all (fun character =>
    character.isAlphanum || character == '_' || character == '-' || character == ':')

/-- The directive that a text writes: a level, a target, or both with an equals sign between. -/
def directive? (text : String) : Option Directive :=
  let characters := text.toList
  let target := characters.takeWhile (· ≠ '=')
  match characters.dropWhile (· ≠ '=') with
  | [] =>
    match level? text with
    | some level => some ⟨"", level⟩
    | none => if isTarget target then some ⟨text, some .trace⟩ else none
  | _ :: rest =>
    if isTarget target then
      (level? (String.ofList rest)).map (fun level => ⟨String.ofList target, level⟩)
    else none

/-- The filter that a text writes: directives with commas between them. Without any directive only
errors are logged. -/
def ofText? (text : String) : Option Filter :=
  let parts := (text.splitOn ",").filter (fun part => part != "")
  if parts.isEmpty then some (.ofLevel .error)
  else (parts.mapM directive?).map Filter.mk

end Filter

end OperatorSource.Log

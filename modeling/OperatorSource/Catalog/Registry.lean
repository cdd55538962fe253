import OperatorSource.Catalog.Builtin
import OperatorSource.Log.Traced

/-!
# Registries of operators

A registry keeps operators by name, in increasing order of their names. Registering an operator
under a name that is taken replaces the earlier one. Names are ordered character by character by
their code points, which is also the order of their UTF-8 bytes.
-/

namespace OperatorSource

/-- Operators by name, in increasing order of the names. -/
structure Registry where
  items : List (String × CatalogEntry) := []
  deriving DecidableEq

namespace Registry

def empty : Registry := {}

/-- Puts an operator before the first greater name, or in the place of an equal one. -/
def insert (name : String) (entry : CatalogEntry) :
    List (String × CatalogEntry) → List (String × CatalogEntry)
  | [] => [(name, entry)]
  | item :: rest =>
    if name < item.1 then (name, entry) :: item :: rest
    else if name = item.1 then (name, entry) :: rest
    else item :: insert name entry rest

/-- Registers an operator under a name; an operator that had the name is replaced. -/
def register (registry : Registry) (name : String) (entry : CatalogEntry) : Registry :=
  ⟨insert name entry registry.items⟩

def registerBuiltin (registry : Registry) (builtin : Builtin) : Registry :=
  registry.register builtin.name builtin.entry

def registerAll (registry : Registry) (entries : List (String × CatalogEntry)) : Registry :=
  entries.foldl (fun current item => current.register item.1 item.2) registry

def names (registry : Registry) : List String := registry.items.map Prod.fst

def get? (registry : Registry) (name : String) : Option CatalogEntry :=
  (registry.items.find? (fun item => item.1 == name)).map Prod.snd

def size (registry : Registry) : Nat := registry.items.length

def isEmpty (registry : Registry) : Bool := registry.items.isEmpty

/-- Registers named operators and reports how many there are then. -/
def collect {ε : Type} (registry : Registry) (entries : List (String × CatalogEntry)) :
    Traced ε Registry := do
  let collected := registry.registerAll entries
  .report (.builtinsCollected collected.size)
  return collected

def builtins {ε : Type} : Traced ε Registry := empty.collect inventory

end Registry

end OperatorSource

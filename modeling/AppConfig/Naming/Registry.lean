import AppConfig.Fault
import AppConfig.Naming.Identifier

/-! # The names of one app

* `Registry`: the names registered so far, in order.
* `Registry.register`: adds a valid identifier and refuses any other name.
* `repeated`: the names that occur more than once, each once, in ascending order.
* `Registry.check`: refuses a registry in which a name occurs more than once.

Registering never refuses a name that is there already; repetitions are a matter for `check`
once the app is complete.
-/

namespace AppConfig
set_option autoImplicit false

/-- Puts a name into an ascending list, unless it is there. -/
def insertName (name : String) : List String → List String
  | [] => [name]
  | n :: rest =>
    if name < n then name :: n :: rest
    else if name = n then n :: rest
    else n :: insertName name rest

/-- The names of a list, each once, in ascending order. -/
def ascending (names : List String) : List String :=
  names.foldr insertName []

/-- The names that occur more than once, each once, in ascending order. -/
def repeated (names : List String) : List String :=
  ascending (names.filter fun n => 2 ≤ names.count n)

/-- The names registered so far, in order. -/
structure Registry where
  identifiers : List String
  deriving DecidableEq, Repr

namespace Registry

def empty : Registry := ⟨[]⟩

/-- Adds a name that stands at a location. -/
def register (r : Registry) (name : String) (location : Location) : Except Fault Registry :=
  if Identifier.isValid name then .ok ⟨r.identifiers ++ [name]⟩
  else .error (.invalidIdentifier location name)

def contains (r : Registry) (name : String) : Bool := r.identifiers.contains name

def size (r : Registry) : Nat := r.identifiers.length

def isEmpty (r : Registry) : Bool := r.identifiers.isEmpty

def duplicates (r : Registry) : List String := repeated r.identifiers

/-- Refuses repeated names, for the app at a location. -/
def check (r : Registry) (location : Location) : Except Fault Unit :=
  if r.duplicates.isEmpty then .ok ()
  else .error (.duplicateIdentifiers location r.duplicates)

end Registry
end AppConfig

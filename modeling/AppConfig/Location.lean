import AppConfig.Json.Reader
import AppConfig.Number.Word

/-! # Locations in a document

* `Segment`: one step, to the value of a key or to an element of the list under a key.
* `Location`: steps from a value down to a part of it; the empty location is the value itself.
* `Location.display`: the text of a location, such as `apps[0].nodes[1].classname`.
* `Location.toJson`, `Location.ofJson?`: a location as a JSON value and back.
* `Location.ofText?`: the location that a JSON text writes.
* `Location.resolve`: the part of a value that a location names.

A location is relative to the value that is being read. Whoever reads a part of a value puts the
step to that part in front of the locations that come back.
-/

namespace AppConfig
set_option autoImplicit false

/-- One step of a location. -/
inductive Segment where
  /-- The value of a key. -/
  | field (name : String)
  /-- An element of the list under a key. -/
  | element (list : String) (index : Nat)
  deriving DecidableEq, Repr

/-- The steps from a value to a part of it. -/
abbrev Location := List Segment

namespace Segment

def display : Segment → String
  | field name => name
  | element list index => s!"{list}[{index}]"

def toJson : Segment → Json
  | field name => .string name
  | element list index => .object [("list", .string list), ("index", .int index)]

/-- The value that a step leads to. -/
def resolve (s : Segment) (v : Json) : Option Json :=
  match v, s with
  | .object members, field name => Members.get? name members
  | .object members, element list index =>
    match Members.get? list members with
    | some (.list items) => items[index]?
    | _ => none
  | _, _ => none

end Segment

namespace Members

/-- The value of a key that stands exactly once. -/
def only? (key : String) (members : Members) : Option Json :=
  match members.filter fun m => m.1 = key with
  | [m] => some m.2
  | _ => none

end Members

namespace Segment

/-- The step that a JSON value writes: a string, or an object with a `list` and an `index`. -/
def ofJson? : Json → Option Segment
  | .string name => some (field name)
  | .object members =>
    match Members.only? "list" members, Members.only? "index" members with
    | some (.string list), some (.int index) =>
      if IsUnsigned64 index then some (element list index.toNat) else none
    | _, _ => none
  | _ => none

end Segment

namespace Location

/-- The value itself. -/
def root : Location := []

def isRoot (l : Location) : Bool := l.isEmpty

def display (l : Location) : String :=
  if l.isEmpty then "<root>" else ".".intercalate (l.map Segment.display)

/-- The index of the first step into the list under a key. -/
def indexIn (list : String) : Location → Option Nat
  | [] => none
  | .field _ :: rest => indexIn list rest
  | .element l i :: rest => if l = list then some i else indexIn list rest

/-- The index of the app around the place. -/
def appIndex (l : Location) : Option Nat := l.indexIn "apps"

/-- The index of the node around the place. -/
def nodeIndex (l : Location) : Option Nat := l.indexIn "nodes"

/-- The key that the place is the value of. -/
def fieldName (l : Location) : Option String :=
  match l.getLast? with
  | some (.field name) => some name
  | _ => none

/-- The key of the steps. -/
def stepsKey : String := "segments"

def toJson (l : Location) : Json :=
  .object [(stepsKey, .list (l.map Segment.toJson))]

/-- The steps that a JSON value writes. -/
def steps? : Json → Option Location
  | .list items => items.mapM Segment.ofJson?
  | _ => none

/-- The location that a JSON value writes: an object whose key `segments` stands once, with a
list of steps, or a list that holds such a list alone. Other keys are ignored. -/
def ofJson? : Json → Option Location
  | .object members => (Members.only? stepsKey members).bind steps?
  | .list [v] => steps? v
  | _ => none

/-- The location that a JSON text writes; the values of other keys are skipped. -/
def ofText? (text : List Char) : Option Location :=
  match Json.readMembers [stepsKey] text with
  | .ok v => ofJson? v
  | .error _ => none

/-- The part of a value that a location names. -/
def resolve (l : Location) (v : Json) : Option Json :=
  match l with
  | [] => some v
  | s :: rest => (s.resolve v).bind (resolve rest)

end Location
end AppConfig

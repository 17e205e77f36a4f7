import AppConfig.Journal
import AppConfig.Number.Word
import AppConfig.Plan.Codes

/-! # Fields of a document

A reader of fields is given the members of an object and the key of a field, and reports places
relative to that object.

* `Shape`: what a field may be asked to be; `Shape.Admits`: which values are so.
* `Fields.present?`: the value of a key. A `null` counts as absent.
* `Fields.require`: the value of a key that has to be there.
* `Fields.text`, `.optionalText`, `.code`, `.natural`, `.optionalNatural32`, `.list`,
  `.optionalList`: typed fields.
-/

namespace AppConfig
set_option autoImplicit false

/-- What a value may be asked to be. -/
inductive Shape where
  | object
  | string
  | integer
  | natural
  | natural32
  | array
  deriving DecidableEq, Repr

namespace Shape

def describe : Shape → String
  | object => "an object"
  | string => "a string"
  | integer => "an integer"
  | natural => "a non-negative integer"
  | natural32 => "a non-negative 32-bit integer"
  | array => "an array"

/-- The values of a shape: integers of signed words, and naturals of unsigned ones. -/
def Admits : Shape → Json → Prop
  | object, .object _ => True
  | string, .string _ => True
  | integer, .int n => IsSigned64 n
  | natural, .int n => IsUnsigned64 n
  | natural32, .int n => IsUnsigned32 n
  | array, .list _ => True
  | _, _ => False

end Shape

/-- A value as an object. -/
def asObject (v : Json) : Outcome Members :=
  match v with
  | .object members => pure members
  | _ => .fail (.wrongShape .root Shape.object.describe)

namespace Fields

/-- The value of a key; a `null` counts as absent. -/
def present? (o : Members) (key : String) : Option Json :=
  (o.get? key).filter fun v => !v.isNull

/-- The value of a key that has to be there. -/
def require (o : Members) (key : String) : Outcome Json :=
  match present? o key with
  | some v => pure v
  | none => .fail (.missingField [.field key])

/-- The value of the key has the wrong shape. -/
def refuse {α : Type} (key : String) (shape : Shape) : Outcome α :=
  .fail (.wrongShape [.field key] shape.describe)

def asText (key : String) (v : Json) : Outcome String :=
  match v with
  | .string s => pure s
  | _ => refuse key .string

def text (o : Members) (key : String) : Outcome String := do
  asText key (← require o key)

def optionalText (o : Members) (key : String) : Outcome (Option String) :=
  match present? o key with
  | some v => some <$> asText key v
  | none => pure none

/-- A value as a word of some width, if one holds it. -/
def asWord {α : Type} (key : String) (shape : Shape) (word? : Int → Option α) (v : Json) :
    Outcome α :=
  match v with
  | .int n =>
    match word? n with
    | some a => pure a
    | none => refuse key shape
  | _ => refuse key shape

def integer (o : Members) (key : String) : Outcome Int := do
  asWord key .integer int64? (← require o key)

def natural (o : Members) (key : String) : Outcome UInt64 := do
  asWord key .natural uint64? (← require o key)

def optionalNatural32 (o : Members) (key : String) : Outcome (Option UInt32) :=
  match present? o key with
  | some v => some <$> asWord key .natural32 uint32? v
  | none => pure none

/-- The member of an enumeration whose code stands under the key. -/
def code (α : Type) [Coded α] (o : Members) (key : String) : Outcome α := do
  let n ← integer o key
  match Coded.ofCode? α n with
  | some a => pure a
  | none => .fail (.unsupportedCode [.field key] (Coded.kind α) n)

def asList (key : String) (v : Json) : Outcome (List Json) :=
  match v with
  | .list items => pure items
  | _ => refuse key .array

def list (o : Members) (key : String) : Outcome (List Json) := do
  asList key (← require o key)

/-- An absent list is empty. -/
def optionalList (o : Members) (key : String) : Outcome (List Json) :=
  match present? o key with
  | some v => asList key v
  | none => pure []

end Fields

/-- A run for each element of the list under a key, seen from the object around the list. -/
def Outcome.elements {α β : Type} (key : String) (items : List α) (f : Nat → α → Outcome β) :
    Outcome (List β) :=
  Outcome.each items fun i a => (f i a).under (.element key i)

end AppConfig

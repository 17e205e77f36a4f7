import AppConfig.Number.Binary64

/-! # JSON values

* `Json`: a value as it is written: the members of an object stand in the order of the text and
  may repeat a key.
* `Members.get?`: the value of a key, the first where it is repeated.
* `Members.insert`: puts a member in its place by key, over an earlier one with the same key.
* `Json.canonical`: every object sorted by key, the last of repeated members kept.
* `Json.texts`: the strings in a value, keys left out.
-/

namespace AppConfig
set_option autoImplicit false

/-- A JSON value. An integer is a number without point and exponent that a 64-bit word holds,
signed or unsigned; any other number is a double. -/
inductive Json where
  | null
  | bool (value : Bool)
  | int (value : Int)
  | float (value : Binary64)
  | string (value : String)
  | list (items : List Json)
  | object (members : List (String × Json))
  deriving Inhabited

/-- The members of an object. -/
abbrev Members := List (String × Json)

namespace Members

/-- The value of `key`. -/
def get? (key : String) : Members → Option Json
  | [] => none
  | (k, v) :: rest => if k = key then some v else get? key rest

/-- Puts the member before the first greater key, or over the member with that key. -/
def insert (key : String) (value : Json) : Members → Members
  | [] => [(key, value)]
  | (k, v) :: rest =>
    if key < k then (key, value) :: (k, v) :: rest
    else if key = k then (key, value) :: rest
    else (k, v) :: insert key value rest

/-- The members in the order of their keys, the last of repeated ones kept. -/
def sorted (members : Members) : Members :=
  members.foldl (fun done m => insert m.1 m.2 done) []

end Members

namespace Json

mutual

/-- The value with every object in the order of its keys. -/
def canonical : Json → Json
  | .list items => .list (canonicalItems items)
  | .object members => .object (Members.sorted (canonicalMembers members))
  | .null => .null
  | .bool b => .bool b
  | .int n => .int n
  | .float x => .float x
  | .string s => .string s

def canonicalItems : List Json → List Json
  | [] => []
  | v :: rest => canonical v :: canonicalItems rest

def canonicalMembers : Members → Members
  | [] => []
  | (k, v) :: rest => (k, canonical v) :: canonicalMembers rest

end

mutual

/-- The strings in a value, keys left out. -/
def texts : Json → List String
  | .string s => [s]
  | .list items => textsOfItems items
  | .object members => textsOfMembers members
  | .null | .bool _ | .int _ | .float _ => []

def textsOfItems : List Json → List String
  | [] => []
  | v :: rest => texts v ++ textsOfItems rest

def textsOfMembers : Members → List String
  | [] => []
  | (_, v) :: rest => texts v ++ textsOfMembers rest

end

def isNull : Json → Bool
  | .null => true
  | _ => false

end Json
end AppConfig

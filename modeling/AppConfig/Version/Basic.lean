import AppConfig.Json.Basic
import AppConfig.Number.Digits
import AppConfig.Text.Split

/-! # Versions

* `Version`: four numbers, of which the first two decide whether it is supported.
* `Version.display`: the numbers with dots between them.
* `Version.le`: the order of the numbers, the first that differs deciding.
* `Version.groups?`: the numbers of a text: runs of digits with single dots between them, each
  within a 64-bit word.
* `isSupported`, `supportedVersions`: the list of pairs that a version is looked up in.
-/

namespace AppConfig
set_option autoImplicit false

/-- A version of the document format. -/
structure Version where
  major : UInt64
  minor : UInt64
  patch : UInt64
  build : UInt64
  deriving DecidableEq, Repr

namespace Version

/-- The numbers of a version, the most important first. -/
def numbers (v : Version) : List Nat :=
  [v.major.toNat, v.minor.toNat, v.patch.toNat, v.build.toNat]

def display (v : Version) : String :=
  s!"{v.major}.{v.minor}.{v.patch}.{v.build}"

/-- The order of lists of numbers: the first number that differs decides. -/
def leNumbers : List Nat → List Nat → Bool
  | [], _ => true
  | _ :: _, [] => false
  | a :: as, b :: bs => a < b || (a = b && leNumbers as bs)

/-- The numeric order: the first number that differs decides. -/
def le (a b : Version) : Bool := leNumbers a.numbers b.numbers

def toJson (v : Version) : Json :=
  .object [("major", .int v.major.toNat), ("minor", .int v.minor.toNat),
    ("patch", .int v.patch.toNat), ("build", .int v.build.toNat)]

/-! ## Texts -/

/-- The number of a group: at least one digit, and within a 64-bit word. -/
def group? (digits : List Char) : Option Nat :=
  if digits.isEmpty || !digits.all Number.isDigit then none
  else if Number.natural 0 digits < UInt64.size then some (Number.natural 0 digits)
  else none

/-- The numbers of the groups between the dots. -/
def groups? (text : List Char) : Option (List Nat) :=
  (Text.splitOn '.' text).mapM group?

/-- The version of the first four groups; a missing group counts as zero. -/
def ofGroups (groups : List Nat) : Version :=
  let group (i : Nat) : UInt64 := UInt64.ofNat ((groups[i]?).getD 0)
  ⟨group 0, group 1, group 2, group 3⟩

/-- The number of groups that a version keeps. -/
def groupLimit : Nat := 4

end Version

/-! ## Supported versions -/

/-- The pairs of first numbers that are supported. -/
def supportedVersions : List (UInt64 × UInt64) := [(0, 7), (0, 8), (0, 9), (1, 0)]

/-- The first two numbers of the version are on the list. -/
def isSupported (v : Version) (allowed : List (UInt64 × UInt64)) : Bool :=
  allowed.any fun pair => v.major = pair.1 && v.minor = pair.2

/-- The list as a text. -/
def displayAllowed (allowed : List (UInt64 × UInt64)) : String :=
  ", ".intercalate (allowed.map fun pair => s!"{pair.1}.{pair.2}")

end AppConfig

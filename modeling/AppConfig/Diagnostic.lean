import AppConfig.Location

/-! # Diagnostics

* `DiagnosticCode`: what a document may leave to the reader without being refused.
* `Severity`: a note or a warning.
* `Diagnostic`: a code at a location, with its message; `Diagnostic.defaulted`, `.omitted` and
  `.placeholder` word the common ones.
* `Diagnostics`: the diagnostics recorded so far, oldest first.
-/

namespace AppConfig
set_option autoImplicit false

/-- How much a diagnostic matters. -/
inductive Severity where
  | info
  | warning
  deriving DecidableEq, Repr

namespace Severity

def text : Severity → String
  | info => "info"
  | warning => "warning"

/-- The name of a severity in JSON. -/
def name : Severity → String
  | info => "Info"
  | warning => "Warning"

/-- A note matters less than a warning. -/
def lt (a b : Severity) : Bool :=
  match a, b with
  | info, warning => true
  | _, _ => false

end Severity

/-- What a document leaves to the reader. -/
inductive DiagnosticCode where
  /-- An optional field is absent and a default stands in. -/
  | fieldDefaulted
  /-- An optional field without a default is absent. -/
  | fieldOmitted
  /-- A part of the document is read as a placeholder only. -/
  | notYetImplemented
  /-- Groups of a version after the fourth are dropped. -/
  | versionGroupsDiscarded
  /-- A `~` in a path stands for the home directory. -/
  | homeExpanded
  deriving DecidableEq, Repr

namespace DiagnosticCode

def all : List DiagnosticCode :=
  [fieldDefaulted, fieldOmitted, notYetImplemented, versionGroupsDiscarded, homeExpanded]

def text : DiagnosticCode → String
  | fieldDefaulted => "W001"
  | notYetImplemented => "W002"
  | versionGroupsDiscarded => "W003"
  | homeExpanded => "I001"
  | fieldOmitted => "I002"

/-- The name of a code in JSON. -/
def name : DiagnosticCode → String
  | fieldDefaulted => "OptionalFieldDefaulted"
  | fieldOmitted => "OptionalFieldOmitted"
  | notYetImplemented => "NotYetImplemented"
  | versionGroupsDiscarded => "VersionGroupsDiscarded"
  | homeExpanded => "HomeDirExpanded"

def severity : DiagnosticCode → Severity
  | fieldDefaulted | notYetImplemented | versionGroupsDiscarded => .warning
  | fieldOmitted | homeExpanded => .info

end DiagnosticCode

/-- A code at a location, with its message. -/
structure Diagnostic where
  location : Location
  code : DiagnosticCode
  message : String
  deriving DecidableEq, Repr

namespace Diagnostic

/-- An optional field is absent and `value` stands in. -/
def defaulted (location : Location) (value : String) : Diagnostic :=
  ⟨location, .fieldDefaulted, s!"optional field not set, using default \"{value}\""⟩

/-- An optional field without a default is absent. -/
def omitted (location : Location) : Diagnostic :=
  ⟨location, .fieldOmitted, "optional field not set"⟩

/-- A part of the document is accepted but not read further. -/
def placeholder (location : Location) (what : String) : Diagnostic :=
  ⟨location, .notYetImplemented, s!"{what} is parsed as an empty placeholder"⟩

def severity (d : Diagnostic) : Severity := d.code.severity

def display (d : Diagnostic) : String :=
  s!"[{d.code.text}] {d.severity.text}: {d.message} ({d.location.display})"

def toJson (d : Diagnostic) : Json :=
  .object [("location", d.location.toJson), ("code", .string d.code.name),
    ("message", .string d.message)]

/-- The diagnostic of a part, seen from the whole. -/
def under (s : Segment) (d : Diagnostic) : Diagnostic :=
  { d with location := s :: d.location }

end Diagnostic

/-- The diagnostics recorded so far, oldest first. -/
abbrev Diagnostics := List Diagnostic

namespace Diagnostics

def push (ds : Diagnostics) (d : Diagnostic) : Diagnostics := ds ++ [d]

def warnings (ds : Diagnostics) : Diagnostics := ds.filter fun d => d.severity = .warning

def withCode (ds : Diagnostics) (code : DiagnosticCode) : Diagnostics :=
  ds.filter fun d => d.code = code

def hasWarnings (ds : Diagnostics) : Bool := !ds.warnings.isEmpty

def toJson (ds : Diagnostics) : Json :=
  .object [("items", .list (ds.map Diagnostic.toJson))]

end Diagnostics
end AppConfig

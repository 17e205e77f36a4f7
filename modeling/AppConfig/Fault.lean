import AppConfig.Files.Host
import AppConfig.Json.Reader
import AppConfig.Location

/-! # Faults

* `Fault`: why a document is refused. A fault in the document names the place.
* `Fault.message`: the wording of all of them.
* `ExitCode`: the class of a fault, which is also the exit status of the command line.
* `Fault.under`: a fault of a part, seen from the whole.
* `Path.requireHome`: refuses a path for want of a home directory.
-/

namespace AppConfig
set_option autoImplicit false

/-- The outcome of a run as its caller sees it. -/
inductive ExitCode where
  | success
  | failure
  | invalidVersion
  | invalidArgument
  | notSupported
  | fileNotFound
  | fileInvalid
  deriving DecidableEq, Repr

namespace ExitCode

def all : List ExitCode :=
  [success, failure, invalidVersion, invalidArgument, notSupported, fileNotFound, fileInvalid]

/-- The exit status. -/
def status : ExitCode → Nat
  | success => 0
  | failure => 1
  | invalidVersion => 2
  | invalidArgument => 3
  | notSupported => 4
  | fileNotFound => 5
  | fileInvalid => 6

def name : ExitCode → String
  | success => "SUCCESS"
  | failure => "FAILURE"
  | invalidVersion => "INVALID_VERSION"
  | invalidArgument => "INVALID_ARGUMENT"
  | notSupported => "NOT_SUPPORTED"
  | fileNotFound => "FILE_NOT_FOUND"
  | fileInvalid => "FILE_INVALID"

def isSuccess (c : ExitCode) : Bool := c = success

theorem status_injective {a b : ExitCode} (h : a.status = b.status) : a = b := by
  cases a <;> cases b <;> simp_all [status]

end ExitCode

/-- Why a document is refused. -/
inductive Fault where
  /-- The request itself is wrong. -/
  | invalidArgument (detail : String)
  /-- There is no document at the path. -/
  | fileNotFound (path : Path)
  /-- The document is no text, or too short. -/
  | fileInvalid (detail : String)
  /-- The text of the document is no JSON value. -/
  | malformed (issue : Json.Issue)
  /-- The version of the document is no version. -/
  | invalidVersion (text : String)
  /-- The version of the document is not on the list. -/
  | unsupportedVersion (version : String) (supported : String)
  /-- A required field is absent. -/
  | missingField (location : Location)
  /-- A value has the wrong shape. -/
  | wrongShape (location : Location) (expected : String)
  /-- A name cannot be used as a symbol. -/
  | invalidIdentifier (location : Location) (identifier : String)
  /-- Names are used more than once within an app. -/
  | duplicateIdentifiers (location : Location) (identifiers : List String)
  /-- A code stands for no member of its enumeration. -/
  | unsupportedCode (location : Location) (kind : String) (code : Int)
  /-- A file that the document names does not exist. -/
  | referenceNotFound (location : Location) (path : Path)
  /-- The document uses a part of the format that is not supported. -/
  | notSupported (location : Location) (feature : String)
  /-- The document cannot be read. -/
  | io (fault : IoFault)
  deriving DecidableEq, Repr

namespace Fault

def message : Fault → String
  | invalidArgument detail => s!"Invalid argument: {detail}"
  | fileNotFound path => s!"Config file not found: {path.text}"
  | fileInvalid detail => s!"Config file invalid: {detail}"
  | malformed issue => s!"Config document is not well-formed: {issue.message}"
  | invalidVersion text => s!"Invalid version string \"{text}\""
  | unsupportedVersion version supported =>
    s!"Version {version} is not in the supported list [{supported}]"
  | missingField location => s!"Missing required field at {location.display}"
  | wrongShape location expected => s!"Field at {location.display} must be {expected}"
  | invalidIdentifier location identifier =>
    s!"\"{identifier}\" at {location.display} is not a valid identifier"
  | duplicateIdentifiers location identifiers =>
    s!"Duplicate identifiers in {location.display}: " ++ ", ".intercalate identifiers
  | unsupportedCode location kind code =>
    s!"Unsupported {kind} code {code} at {location.display}"
  | referenceNotFound location path =>
    s!"Referenced file {path.text} at {location.display} not found"
  | notSupported location feature => s!"{feature} at {location.display} is not supported yet"
  | io fault => s!"IO error: {fault.message}"

def code : Fault → ExitCode
  | invalidArgument _ | unsupportedCode _ _ _ => .invalidArgument
  | fileNotFound _ | referenceNotFound _ _ => .fileNotFound
  | fileInvalid _ | malformed _ | missingField _ | wrongShape _ _ | invalidIdentifier _ _
  | duplicateIdentifiers _ _ => .fileInvalid
  | invalidVersion _ | unsupportedVersion _ _ => .invalidVersion
  | notSupported _ _ => .notSupported
  | io _ => .failure

/-- The place in the document, for a fault that has one. -/
def location? : Fault → Option Location
  | missingField l | wrongShape l _ | invalidIdentifier l _ | duplicateIdentifiers l _
  | unsupportedCode l _ _ | referenceNotFound l _ | notSupported l _ => some l
  | _ => none

/-- The fault with its place changed. -/
def relocate (f : Location → Location) : Fault → Fault
  | missingField l => missingField (f l)
  | wrongShape l expected => wrongShape (f l) expected
  | invalidIdentifier l identifier => invalidIdentifier (f l) identifier
  | duplicateIdentifiers l identifiers => duplicateIdentifiers (f l) identifiers
  | unsupportedCode l kind code => unsupportedCode (f l) kind code
  | referenceNotFound l path => referenceNotFound (f l) path
  | notSupported l feature => notSupported (f l) feature
  | fault => fault

/-- The fault of a part, seen from the whole. -/
def under (s : Segment) (fault : Fault) : Fault := fault.relocate (s :: ·)

theorem location?_relocate (f : Location → Location) (fault : Fault) :
    (fault.relocate f).location? = fault.location?.map f := by
  cases fault <;> rfl

/-- No fault has the class of success. -/
theorem code_ne_success (fault : Fault) : fault.code ≠ .success := by
  cases fault <;> simp [code]

/-- There is no home directory that a path could stand for. -/
def noHome (p : Path) : Fault :=
  .invalidArgument s!"cannot expand \"{p.text}\": no home directory"

end Fault

/-- Refuses a path that stands for one in the home directory if there is none. -/
def Path.requireHome (p : Path) (home : Option Path) : Except Fault Unit :=
  if p.lacksHome home then .error (.noHome p) else .ok ()

end AppConfig

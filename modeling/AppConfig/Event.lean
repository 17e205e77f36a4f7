import AppConfig.Files.Path
import AppConfig.Json.Printer
import AppConfig.Location
import AppConfig.Version.Basic

/-! # Log events

* `LogLevel`: from errors, which matter most, to traces.
* `Event`: what the reading of a document reports while it goes on.
* `Event.level`, `.source`, `.message`: how an event is logged.
-/

namespace AppConfig
set_option autoImplicit false

/-- How much an event matters, the most important first. -/
inductive LogLevel where
  | error
  | warn
  | info
  | debug
  | trace
  deriving DecidableEq, Repr

namespace LogLevel

def text : LogLevel → String
  | error => "ERROR"
  | warn => "WARN"
  | info => "INFO"
  | debug => "DEBUG"
  | trace => "TRACE"

/-- The place of a level, from one for errors. -/
def rank : LogLevel → Nat
  | error => 1
  | warn => 2
  | info => 3
  | debug => 4
  | trace => 5

end LogLevel

/-- What the reading of a document reports. -/
inductive Event where
  /-- The text of a document has been read. -/
  | fileRead (octets : Nat) (path : Path)
  /-- The text is a JSON value. -/
  | documentDecoded (document : Json)
  /-- The version of the document is known. -/
  | versionRead (version : Version)
  /-- A name is registered. -/
  | nameRegistered (name : String) (location : Location)
  /-- An app is complete. -/
  | appRead (name : String) (location : Location) (nodes names : Nat)
  /-- The plan is complete. -/
  | planRead (version : Version) (platform language : String) (apps : Nat)
  /-- The version is on the list. -/
  | versionAccepted (version : Version)
  /-- A step of validation that asks for nothing. -/
  | stepSkipped (step : String)
  /-- The document at a path has become a plan. -/
  | compiled (path : Path) (summary : String)

namespace Event

def level : Event → LogLevel
  | documentDecoded _ | nameRegistered _ _ => .trace
  | _ => .debug

/-- The part of the program that reports the event. -/
def source : Event → String
  | fileRead _ _ => "wolfes_cg::reader"
  | documentDecoded _ => "wolfes_cg::decoder"
  | versionRead _ => "wolfes_cg::version"
  | nameRegistered _ _ => "wolfes_cg::ident"
  | appRead _ _ _ _ | planRead _ _ _ _ => "wolfes_cg::builder"
  | versionAccepted _ | stepSkipped _ => "wolfes_cg::validator"
  | compiled _ _ => "wolfes_cg::compiler"

def message : Event → String
  | fileRead octets path => s!"read {octets} bytes from {path.text}"
  | documentDecoded document => "decoded document: " ++ document.render .compact
  | versionRead version => s!"version numbers: [{version.display}]"
  | nameRegistered name location => s!"register identifier {name} ({location.display})"
  | appRead name location nodes names =>
    s!"app {name} ({location.display}): {nodes} node(s), {names} identifier(s)"
  | planRead version platform language apps =>
    s!"built IR: version {version.display}, platform {platform}, lang {language}, {apps} app(s)"
  | versionAccepted version => s!"version {version.major}.{version.minor} validated"
  | stepSkipped step => s!"validation step \"{step}\" not enforced, skipped"
  | compiled path summary => s!"compiled {path.text}: {summary}"

/-- The event of a part, seen from the whole. -/
def under (s : Segment) : Event → Event
  | nameRegistered name location => nameRegistered name (s :: location)
  | appRead name location nodes names => appRead name (s :: location) nodes names
  | event => event

end Event
end AppConfig

import AppConfig.Journal
import AppConfig.Plan.Basic

/-! # Validating plans

* `ValidationStep`: what a plan is checked for, in order. Only the version is enforced; the
  other steps accept every plan.
* `Plan.validate`: all steps, until the first that refuses the plan.
-/

namespace AppConfig
set_option autoImplicit false

/-- What a plan is checked for. -/
inductive ValidationStep where
  /-- The version is on the list. -/
  | version
  /-- The platform goes with the version. -/
  | platform
  /-- The language goes with the version. -/
  | language
  /-- The protocol and the domain go with the platform. -/
  | protocol
  /-- The definitions of messages exist. -/
  | messages
  deriving DecidableEq, Repr

namespace ValidationStep

def all : List ValidationStep := [version, platform, language, protocol, messages]

def text : ValidationStep → String
  | version => "version"
  | platform => "platform compatibility"
  | language => "language compatibility"
  | protocol => "protocol compatibility"
  | messages => "custom messages"

/-- Whether the step can refuse a plan. -/
def isEnforced (s : ValidationStep) : Bool := s = version

end ValidationStep

namespace Plan

/-- The version of a plan is on the list. -/
def checkVersion (p : Plan) : Outcome Unit :=
  if isSupported p.version supportedVersions then .log (.versionAccepted p.version)
  else
    .fail (.unsupportedVersion s!"{p.version.major}.{p.version.minor}"
      (displayAllowed supportedVersions))

/-- One step of validation. -/
def checkStep (p : Plan) (s : ValidationStep) : Outcome Unit :=
  match s with
  | .version => p.checkVersion
  | s => .log (.stepSkipped s.text)

/-- Every step in order, until the first that refuses the plan. -/
def validate (p : Plan) : Outcome Unit :=
  ValidationStep.all.forM p.checkStep

end Plan
end AppConfig

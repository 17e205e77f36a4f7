import AppConfig.Document.Fields
import AppConfig.Naming.Registry
import AppConfig.Plan.Basic
import AppConfig.Version.Reader

/-! # Reading documents

A document is read from the top down, each part by its own reader, until the first fault:

* the root: `wolfes_version`, `platform`, `lang`, `apps`;
* an app: `namespace`, `domain_id`, `protocol_type`, `scheduler_config`, `nodes`, `modules`;
* a node: `classname`, `qos_config`, and a list for each kind of entity;
* an entity: its names, and the fields of its kind.

A reader is given a part alone and reports places relative to it. The names of an app are those
that the journal of its nodes registers; whether one is repeated is asked at the end of the app.

* `Site`: where references are looked up.
* `readSymbol`: an optional name with a default.
* `requireFile`: the file that a reference leads to has to be there; `readReference`: an optional
  reference.
* `readTimer`, `readEndpoint`, `readNode`, `readModule`, `readApp`, `readDocument`.
-/

namespace AppConfig
set_option autoImplicit false

/-- Where the references of a document are looked up: the home directory and the directory of the
document, if there are any, and the paths that exist. -/
structure Site where
  home : Option Path
  base : Option Path
  isPresent : Path → Bool

/-- The machine, seen from a directory. -/
def Host.site (h : Host) (base : Option Path) : Site := ⟨h.home, base, h.isPresent⟩

namespace Document

/-! ## Names and references -/

/-- Registers the name under a key. -/
def register (key name : String) : Outcome Unit :=
  if Identifier.isValid name then .log (.nameRegistered name [.field key])
  else .fail (.invalidIdentifier [.field key] name)

/-- The name under a key, or the default with a warning. -/
def declaredOr (o : Members) (key default : String) : Outcome String := do
  match ← Fields.optionalText o key with
  | some name => pure name
  | none => do
    .note (.defaulted [.field key] default)
    pure default

/-- The name under a key or the default, registered either way. -/
def readSymbol (o : Members) (key default : String) : Outcome String := do
  let name ← declaredOr o key default
  register key name
  return name

/-- Refuses a reference under a key that leads to no file. -/
def requireFile (site : Site) (key raw : String) : Outcome Unit := do
  .ofExcept (Path.requireHome ⟨raw⟩ site.home)
  let path := Path.resolve site.home site.base ⟨raw⟩
  if raw.isEmpty || !site.isPresent path then .fail (.referenceNotFound [.field key] path)
  else pure ()

/-- The file under a key, which has to exist; it is kept as the document writes it. -/
def readReference (site : Site) (o : Members) (key : String) : Outcome (Option String) := do
  match ← Fields.optionalText o key with
  | none => do
    .note (.omitted [.field key])
    pure none
  | some raw => do
    requireFile site key raw
    pure (some raw)

/-! ## Entities -/

def readTimer (index : Nat) (o : Members) : Outcome Timer := do
  let id ← readSymbol o "identifier" (EntityKind.timer.defaultId index)
  let clock ← Fields.code TimerClock o "type"
  let period ← Fields.natural o "period"
  let callback ← readSymbol o EntityKind.timer.functionKey (EntityKind.timer.defaultFunction index)
  return { id, clock, period, callback }

def readMessage (site : Site) (o : Members) : Outcome Message := do
  let name ← Fields.text o "message"
  let format ← Fields.code MessageFormat o "msg_type"
  let source ← readReference site o "msg_src"
  return { format, name, source }

def readEndpoint (site : Site) (kind : EndpointKind) (index : Nat) (o : Members) :
    Outcome Endpoint := do
  let entity := EntityKind.endpoint kind
  let id ← readSymbol o "identifier" (entity.defaultId index)
  let channel ← Fields.text o kind.channelKey
  let message ← readMessage site o
  let function ← readSymbol o entity.functionKey (entity.defaultFunction index)
  return { id, channel, message, function }

/-- The entities of a list: all its elements are seen to be objects before the first is read. -/
def readEntities {α : Type} (o : Members) (kind : EntityKind) (f : Nat → Members → Outcome α) :
    Outcome (List α) := do
  let items ← Fields.optionalList o kind.listKey
  let objects ← Outcome.elements kind.listKey items fun _ v => asObject v
  Outcome.elements kind.listKey objects f

def readEndpoints (site : Site) (o : Members) (kind : EndpointKind) : Outcome (List Endpoint) :=
  readEntities o (.endpoint kind) (readEndpoint site kind)

/-! ## Nodes, modules and apps -/

/-- A list that has to be absent or empty. -/
def refuseItems (o : Members) (key feature : String) : Outcome Unit := do
  match ← Fields.optionalList o key with
  | [] => pure ()
  | _ :: _ => .fail (.notSupported [.field key] feature)

/-- The class name of a node, registered. -/
def readClassname (o : Members) : Outcome String := do
  let name ← Fields.text o "classname"
  register "classname" name
  return name

def readNode (site : Site) (v : Json) : Outcome Node := do
  let o ← asObject v
  let classname ← readClassname o
  let qosConfig ← readReference site o "qos_config"
  let timers ← readEntities o .timer readTimer
  let topicPubs ← readEndpoints site o .topicPub
  let topicSubs ← readEndpoints site o .topicSub
  let serviceServers ← readEndpoints site o .serviceServer
  let serviceClients ← readEndpoints site o .serviceClient
  refuseItems o "action_servers" "action servers"
  refuseItems o "action_clients" "action clients"
  return { classname, qosConfig, timers, topicPubs, topicSubs, serviceServers, serviceClients }

/-- A module is an object; what it holds is not read yet. -/
def readModule (v : Json) : Outcome Module := do
  let _ ← asObject v
  .note (.placeholder .root "module")
  return .placeholder

/-- The namespace of an app: a valid identifier, which is not registered. -/
def readNamespace (o : Members) : Outcome String := do
  let name ← Fields.text o "namespace"
  if Identifier.isValid name then pure name
  else .fail (.invalidIdentifier [.field "namespace"] name)

/-- The domain of an app, zero by default. -/
def readDomain (o : Members) : Outcome UInt32 := do
  match ← Fields.optionalNatural32 o "domain_id" with
  | some id => pure id
  | none => do
    .note (.defaulted [.field "domain_id"] "0")
    pure 0

def readNodes (site : Site) (o : Members) : Outcome (List Node) := do
  let items ← Fields.list o "nodes"
  Outcome.elements "nodes" items fun _ v => readNode site v

def readModules (o : Members) : Outcome (List Module) := do
  let items ← Fields.optionalList o "modules"
  Outcome.elements "modules" items fun _ v => readModule v

def readApp (site : Site) (v : Json) : Outcome App := do
  let o ← asObject v
  let name ← readNamespace o
  let domainId ← readDomain o
  let protocol ← Fields.code Protocol o "protocol_type"
  let schedulerConfig ← readReference site o "scheduler_config"
  let (nodes, journal) ← (readNodes site o).listen
  let modules ← readModules o
  let registry : Registry := ⟨journal.registered⟩
  .ofExcept (registry.check .root)
  .log (.appRead name .root nodes.length registry.size)
  return { name, domainId, protocol, schedulerConfig, nodes, modules,
           identifiers := registry.identifiers }

/-! ## Documents -/

def readVersion (o : Members) : Outcome Version := do
  let text ← Fields.text o "wolfes_version"
  (Version.ofText text).under (.field "wolfes_version")

def readApps (site : Site) (o : Members) : Outcome (List App) := do
  let items ← Fields.list o "apps"
  Outcome.elements "apps" items fun _ v => readApp site v

/-- The plan that a document describes. -/
def readDocument (site : Site) (v : Json) : Outcome Plan := do
  let o ← asObject v
  let version ← readVersion o
  let platform ← Fields.code Platform o "platform"
  let language ← Fields.code Language o "lang"
  let apps ← readApps site o
  .log (.planRead version (Coded.name platform) (Coded.name language) apps.length)
  return { platform, language, version, apps, customMessages := [] }

end Document
end AppConfig

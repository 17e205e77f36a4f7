import AppConfig.Document.Reader

/-! # Reading onto the diagnostics of a caller

A caller that asks for several things has one list of diagnostics for all of them. What it asks for
is handed the list and writes to it on the way, and a fault leaves what was written before it. The
names of an app are written to a registry in the same manner, one for each app.

* `Recording`: a run on the diagnostics of its caller.
* `Registering`: a run that is also on the names of the app around it.
* `Recording.fieldAt`: what is read of a single object, which records nothing.
* `Recording.readVersion`, `Registering.readNode`, `Recording.readApp`, `Recording.readDocument`: the
  readers of `AppConfig.Document.Reader` on this state. A reader is told the place of what it reads.
-/

namespace AppConfig
set_option autoImplicit false

/-- A run on the diagnostics of its caller; a fault keeps what was recorded before it. -/
abbrev Recording (α : Type) := ExceptT Fault (StateM Diagnostics) α

/-- A run on the diagnostics of its caller and the names of the app around it. -/
abbrev Registering (α : Type) := StateT Registry Recording α

namespace Recording

variable {α β : Type}

def note (d : Diagnostic) : Recording Unit := modify fun ds : Diagnostics => ds.push d

/-- A result as a run that records nothing. -/
def ofExcept (r : Except Fault α) : Recording α := ExceptT.mk (pure r)

/-- What is read of one object, which stands at a place. -/
def fieldAt (here : Location) (x : Outcome α) : Recording α := ofExcept (x.within here).result

/-- A run for each element of the list under a key, in order, until the first fault. -/
def elements {m : Type → Type} [Monad m] (here : Location) (key : String) (items : List α)
    (f : Location → Nat → α → m β) : m (List β) :=
  items.zipIdx.mapM fun (a, i) => f (here ++ [.element key i]) i a

/-! ## Names and references -/

/-- The name under a key, or the default with a warning. -/
def declaredOr (here : Location) (o : Members) (key default : String) : Recording String := do
  match ← fieldAt here (Fields.optionalText o key) with
  | some name => return name
  | none => do
    note (.defaulted (here ++ [.field key]) default)
    return default

/-- Refuses a reference under a key that leads to no file. -/
def requireFile (site : Site) (here : Location) (key raw : String) : Recording Unit := do
  ofExcept (Path.requireHome ⟨raw⟩ site.home)
  let path := Path.resolve site.home site.base ⟨raw⟩
  if raw.isEmpty || !site.isPresent path then
    throw (.referenceNotFound (here ++ [.field key]) path)
  else return ()

/-- The file under a key, which has to exist; it is kept as the document writes it. -/
def readReference (site : Site) (here : Location) (o : Members) (key : String) :
    Recording (Option String) := do
  match ← fieldAt here (Fields.optionalText o key) with
  | none => do
    note (.omitted (here ++ [.field key]))
    return none
  | some raw => do
    requireFile site here key raw
    return some raw

def readMessage (site : Site) (here : Location) (o : Members) : Recording Message := do
  let name ← fieldAt here (Fields.text o "message")
  let format ← fieldAt here (Fields.code MessageFormat o "msg_type")
  let source ← readReference site here o "msg_src"
  return { format, name, source }

end Recording

namespace Registering
open Recording (fieldAt elements)

variable {α : Type}

/-- Adds the name under a key to those of the app. -/
def register (here : Location) (key name : String) : Registering Unit := do
  let registry ← get
  set (← Recording.ofExcept (registry.register name (here ++ [.field key])))

/-- The name under a key or the default, registered either way. -/
def readSymbol (here : Location) (o : Members) (key default : String) : Registering String := do
  let name ← Recording.declaredOr here o key default
  register here key name
  return name

/-! ## Entities -/

def readTimer (here : Location) (index : Nat) (o : Members) : Registering Timer := do
  let id ← readSymbol here o "identifier" (EntityKind.timer.defaultId index)
  let clock ← fieldAt here (Fields.code TimerClock o "type")
  let period ← fieldAt here (Fields.natural o "period")
  let callback ←
    readSymbol here o EntityKind.timer.functionKey (EntityKind.timer.defaultFunction index)
  return { id, clock, period, callback }

def readEndpoint (site : Site) (kind : EndpointKind) (here : Location) (index : Nat)
    (o : Members) : Registering Endpoint := do
  let entity := EntityKind.endpoint kind
  let id ← readSymbol here o "identifier" (entity.defaultId index)
  let channel ← fieldAt here (Fields.text o kind.channelKey)
  let message ← Recording.readMessage site here o
  let function ← readSymbol here o entity.functionKey (entity.defaultFunction index)
  return { id, channel, message, function }

/-- The entities of a list: all its elements are seen to be objects before the first is read. -/
def readEntities (here : Location) (o : Members) (kind : EntityKind)
    (f : Location → Nat → Members → Registering α) : Registering (List α) := do
  let items ← fieldAt here (Fields.optionalList o kind.listKey)
  let objects ← elements here kind.listKey items fun there _ v => (fieldAt there (asObject v) :)
  elements here kind.listKey objects f

def readEndpoints (site : Site) (here : Location) (o : Members) (kind : EndpointKind) :
    Registering (List Endpoint) :=
  readEntities here o (.endpoint kind) (readEndpoint site kind)

/-! ## Nodes -/

def readClassname (here : Location) (o : Members) : Registering String := do
  let name ← fieldAt here (Fields.text o "classname")
  register here "classname" name
  return name

def readNode (site : Site) (here : Location) (v : Json) : Registering Node := do
  let o ← fieldAt here (asObject v)
  let classname ← readClassname here o
  let qosConfig ← Recording.readReference site here o "qos_config"
  let timers ← readEntities here o .timer readTimer
  let topicPubs ← readEndpoints site here o .topicPub
  let topicSubs ← readEndpoints site here o .topicSub
  let serviceServers ← readEndpoints site here o .serviceServer
  let serviceClients ← readEndpoints site here o .serviceClient
  fieldAt here (Document.refuseItems o "action_servers" "action servers")
  fieldAt here (Document.refuseItems o "action_clients" "action clients")
  return { classname, qosConfig, timers, topicPubs, topicSubs, serviceServers, serviceClients }

def readNodes (site : Site) (here : Location) (o : Members) : Registering (List Node) := do
  let items ← fieldAt here (Fields.list o "nodes")
  elements here "nodes" items fun there _ v => readNode site there v

end Registering

namespace Recording

/-! ## Apps and documents -/

def readModule (here : Location) (v : Json) : Recording Module := do
  let _ ← fieldAt here (asObject v)
  note (.placeholder here "module")
  return .placeholder

/-- The domain of an app, zero by default. -/
def readDomain (here : Location) (o : Members) : Recording UInt32 := do
  match ← fieldAt here (Fields.optionalNatural32 o "domain_id") with
  | some id => return id
  | none => do
    note (.defaulted (here ++ [.field "domain_id"]) "0")
    return 0

def readModules (here : Location) (o : Members) : Recording (List Module) := do
  let items ← fieldAt here (Fields.optionalList o "modules")
  elements here "modules" items fun there _ v => readModule there v

/-- An app, whose nodes share a new registry. -/
def readApp (site : Site) (here : Location) (v : Json) : Recording App := do
  let o ← fieldAt here (asObject v)
  let name ← fieldAt here (Document.readNamespace o)
  let domainId ← readDomain here o
  let protocol ← fieldAt here (Fields.code Protocol o "protocol_type")
  let schedulerConfig ← readReference site here o "scheduler_config"
  let (nodes, registry) ← (Registering.readNodes site here o).run .empty
  let modules ← readModules here o
  ofExcept (registry.check here)
  return { name, domainId, protocol, schedulerConfig, nodes, modules,
           identifiers := registry.identifiers }

/-- The version that a text at a place writes. -/
def versionOfText (here : Location) (text : String) : Recording Version :=
  match Version.groups? text.toList with
  | none => throw (.invalidVersion text)
  | some groups => do
    let v := Version.ofGroups groups
    if Version.groupLimit < groups.length then
      note { Version.discarded v (groups.length - Version.groupLimit) with location := here }
    return v

def readVersion (here : Location) (o : Members) : Recording Version := do
  let text ← fieldAt here (Fields.text o "wolfes_version")
  versionOfText (here ++ [.field "wolfes_version"]) text

def readApps (site : Site) (here : Location) (o : Members) : Recording (List App) := do
  let items ← fieldAt here (Fields.list o "apps")
  elements here "apps" items fun there _ v => readApp site there v

/-- The plan that a document describes. -/
def readDocument (site : Site) (v : Json) : Recording Plan := do
  let o ← fieldAt .root (asObject v)
  let version ← readVersion .root o
  let platform ← fieldAt .root (Fields.code Platform o "platform")
  let language ← fieldAt .root (Fields.code Language o "lang")
  let apps ← readApps site .root o
  return { platform, language, version, apps, customMessages := [] }

end Recording
end AppConfig

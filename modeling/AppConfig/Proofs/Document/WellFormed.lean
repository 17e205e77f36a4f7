import AppConfig.Proofs.Document.References

/-! # Well-formed documents

The input format, said as a condition on the document alone.

* `Required`, `Optional`: a key that has to have a value, and one that may have none.
* `IsText`, `IsName`, `IsCode`, `IsBelow`, `IsFile`, `IsListOf`: what a value may have to be.
* `WellFormedTimer`, `WellFormedEndpoint`, `WellFormedNode`, `WellFormedApp`, `WellFormed`: the
  levels of a document.
* `appNames`: the names in the object of an app, declared or by default.
-/

namespace AppConfig.Document
set_option autoImplicit false
open Fields (present? objectsAt)

/-! ## Values -/

def IsText (v : Json) : Prop := ∃ s, v = .string s

def IsName (v : Json) : Prop := ∃ s, v = .string s ∧ Identifier.isValid s = true

def IsVersion (v : Json) : Prop :=
  ∃ s version, v = .string s ∧ (Version.ofText s).result = .ok version

/-- A declared code of the enumeration. -/
def IsCode (kind : String) (v : Json) : Prop :=
  ∃ codes, (kind, codes) ∈ declaredCodes ∧ ∃ n ∈ codes, v = .int n

def IsBelow (bound : Nat) (v : Json) : Prop := ∃ n : Nat, n < bound ∧ v = .int n

/-- A reference that leads to a file. -/
def IsFile (site : Site) (v : Json) : Prop := ∃ raw, v = .string raw ∧ site.Finds raw

/-- A list of objects; a `null` is none. -/
def IsListOf (P : Members → Prop) (v : Json) : Prop :=
  ∃ items, v = .list items ∧ ∀ item ∈ items, ∃ o, item = .object o ∧ P o

/-! ## Fields -/

def Required (o : Members) (key : String) (P : Json → Prop) : Prop :=
  ∃ v, present? o key = some v ∧ P v

/-- The key is absent or `null`, or its value is as asked. -/
def Optional (o : Members) (key : String) (P : Json → Prop) : Prop :=
  ∀ v, present? o key = some v → P v

/-! ## Names -/

/-- The string under a key, or the default. -/
def nameOr (o : Members) (key default : String) : String :=
  match present? o key with
  | some (.string s) => s
  | _ => default

/-- The id and the function of the entity at a place in its list. -/
def entityNames (kind : EntityKind) (index : Nat) (o : Members) : List String :=
  [nameOr o "identifier" (kind.defaultId index),
   nameOr o kind.functionKey (kind.defaultFunction index)]

def nodeNames (o : Members) : List String :=
  nameOr o "classname" "" ::
    EntityKind.all.flatMap fun kind => ((objectsAt o kind.listKey).mapIdx (entityNames kind)).flatten

def appNames (o : Members) : List String := (objectsAt o "nodes").flatMap nodeNames

/-! ## Levels -/

structure WellFormedTimer (o : Members) : Prop where
  id : Optional o "identifier" IsName
  clock : Required o "type" (IsCode "timer type")
  period : Required o "period" (IsBelow UInt64.size)
  callback : Optional o "cb_function" IsName

structure WellFormedMessage (site : Site) (o : Members) : Prop where
  name : Required o "message" IsText
  format : Required o "msg_type" (IsCode "msg_type")
  source : Optional o "msg_src" (IsFile site)

structure WellFormedEndpoint (site : Site) (kind : EndpointKind) (o : Members) : Prop where
  id : Optional o "identifier" IsName
  channel : Required o kind.channelKey IsText
  message : WellFormedMessage site o
  function : Optional o (EntityKind.endpoint kind).functionKey IsName

structure WellFormedNode (site : Site) (o : Members) : Prop where
  classname : Required o "classname" IsName
  qosConfig : Optional o "qos_config" (IsFile site)
  timers : Optional o "timers" (IsListOf WellFormedTimer)
  endpoints : ∀ kind : EndpointKind,
    Optional o (EntityKind.endpoint kind).listKey (IsListOf (WellFormedEndpoint site kind))
  actionServers : Optional o "action_servers" (· = .list [])
  actionClients : Optional o "action_clients" (· = .list [])

structure WellFormedApp (site : Site) (o : Members) : Prop where
  name : Required o "namespace" IsName
  domainId : Optional o "domain_id" (IsBelow UInt32.size)
  protocol : Required o "protocol_type" (IsCode "protocol_type")
  schedulerConfig : Optional o "scheduler_config" (IsFile site)
  nodes : Required o "nodes" (IsListOf (WellFormedNode site))
  modules : Optional o "modules" (IsListOf fun _ => True)
  distinct : (appNames o).Nodup

structure WellFormedRoot (site : Site) (o : Members) : Prop where
  version : Required o "wolfes_version" IsVersion
  platform : Required o "platform" (IsCode "platform")
  language : Required o "lang" (IsCode "lang")
  apps : Required o "apps" (IsListOf (WellFormedApp site))

def WellFormed (site : Site) (doc : Json) : Prop := ∃ o, doc = .object o ∧ WellFormedRoot site o

end AppConfig.Document

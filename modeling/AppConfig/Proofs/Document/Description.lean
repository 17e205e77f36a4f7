import AppConfig.Proofs.Document.References
import AppConfig.Proofs.Version.Written

/-! # What a document describes

The plan of a document, said without the readers.

* `IsSymbol`, `IsReference`: an optional name with its default; an optional file that exists.
* `IsList`: the parts made from the list under a key, place by place; none where it is absent.
* `IsTimer`, `IsEndpoint`, `IsNode`, `IsApp`, `IsPlan`: each part of a plan holds the values of its
  object, and every value of the object is as the format asks.
* `Describes`: a document is an object that a plan is made from.

A value is *under* a key when it is there and not `null`: `Fields.present? o key = some v`. An
optional value is written `Fields.present? o key = value.map write`: there is none in the plan
exactly where the document has none.
-/

namespace AppConfig.Document
set_option autoImplicit false
open Fields (present? objectsAt membersOf)

variable {β : Type}

/-! ## Fields -/

/-- The name declared under a key, or the default where none is declared. -/
structure IsSymbol (o : Members) (key default name : String) : Prop where
  declared : ∃ declared : Option String,
    present? o key = declared.map .string ∧ name = declared.getD default
  valid : Identifier.isValid name = true

/-- The file named under a key, as the document writes it; it is found if one is named. -/
structure IsReference (site : Site) (o : Members) (key : String) (reference : Option String) :
    Prop where
  verbatim : present? o key = reference.map .string
  exists_file : ∀ raw, reference = some raw → site.Finds raw

/-- The parts made from the objects of the list under a key; no parts where the key is absent. -/
def IsList (o : Members) (key : String) (IsPart : Nat → Members → β → Prop) (parts : List β) :
    Prop :=
  ∃ declared : Option (List Json), present? o key = declared.map .list ∧
    Placewise (fun k v part => ∃ inner, v = .object inner ∧ IsPart k inner part)
      (declared.getD []) parts

/-- A list that has to be absent or empty. -/
def IsUnused (o : Members) (key : String) : Prop :=
  present? o key = none ∨ present? o key = some (.list [])

/-! ## Parts -/

structure IsTimer (index : Nat) (o : Members) (t : Timer) : Prop where
  id : IsSymbol o "identifier" (EntityKind.timer.defaultId index) t.id
  clock : present? o "type" = some (.int (Coded.code t.clock))
  period : present? o "period" = some (.int t.period.toNat)
  callback : IsSymbol o "cb_function" (EntityKind.timer.defaultFunction index) t.callback

structure IsMessage (site : Site) (o : Members) (m : Message) : Prop where
  name : present? o "message" = some (.string m.name)
  format : present? o "msg_type" = some (.int (Coded.code m.format))
  source : IsReference site o "msg_src" m.source

structure IsEndpoint (site : Site) (kind : EndpointKind) (index : Nat) (o : Members)
    (e : Endpoint) : Prop where
  id : IsSymbol o "identifier" ((EntityKind.endpoint kind).defaultId index) e.id
  channel : present? o kind.channelKey = some (.string e.channel)
  message : IsMessage site o e.message
  function : IsSymbol o (EntityKind.endpoint kind).functionKey
    ((EntityKind.endpoint kind).defaultFunction index) e.function

structure IsNode (site : Site) (o : Members) (n : Node) : Prop where
  classname : present? o "classname" = some (.string n.classname)
  valid : Identifier.isValid n.classname = true
  qosConfig : IsReference site o "qos_config" n.qosConfig
  timers : IsList o "timers" IsTimer n.timers
  topicPubs : IsList o "topic_pubs" (IsEndpoint site .topicPub) n.topicPubs
  topicSubs : IsList o "topic_subs" (IsEndpoint site .topicSub) n.topicSubs
  serviceServers : IsList o "service_servers" (IsEndpoint site .serviceServer) n.serviceServers
  serviceClients : IsList o "service_clients" (IsEndpoint site .serviceClient) n.serviceClients
  actionServers : IsUnused o "action_servers"
  actionClients : IsUnused o "action_clients"

structure IsApp (site : Site) (o : Members) (a : App) : Prop where
  name : present? o "namespace" = some (.string a.name)
  valid : Identifier.isValid a.name = true
  domainId : ∃ declared : Option UInt32,
    present? o "domain_id" = declared.map (fun w => .int w.toNat) ∧ a.domainId = declared.getD 0
  protocol : present? o "protocol_type" = some (.int (Coded.code a.protocol))
  schedulerConfig : IsReference site o "scheduler_config" a.schedulerConfig
  required : present? o "nodes" ≠ none
  nodes : IsList o "nodes" (fun _ => IsNode site) a.nodes
  modules : IsList o "modules" (fun _ _ m => m = .placeholder) a.modules
  identifiers : a.identifiers = a.names
  distinct : a.names.Nodup

structure IsPlan (site : Site) (o : Members) (p : Plan) : Prop where
  version : ∃ text, present? o "wolfes_version" = some (.string text) ∧ p.version.IsWritten text
  platform : present? o "platform" = some (.int (Coded.code p.platform))
  language : present? o "lang" = some (.int (Coded.code p.language))
  required : present? o "apps" ≠ none
  apps : IsList o "apps" (fun _ => IsApp site) p.apps
  customMessages : p.customMessages = []

/-- The document is an object that the plan is made from. -/
def Describes (site : Site) (v : Json) (p : Plan) : Prop := ∃ o, v = .object o ∧ IsPlan site o p

/-! ## Parts of lists -/

variable {o : Members} {site : Site}

/-- The parts stand in the order of the objects of the list. -/
theorem IsList.placewise {key : String} {IsPart : Nat → Members → β → Prop} {parts : List β}
    (h : IsList o key IsPart parts) : Placewise IsPart (objectsAt o key) parts := by
  obtain ⟨declared, hkey, hparts⟩ := h
  have hobjects : objectsAt o key = (declared.getD []).map membersOf := by
    unfold objectsAt
    rw [hkey]
    cases declared <;> rfl
  rw [hobjects]
  refine ⟨(List.length_map _).trans hparts.length_eq, fun k inner part hinner hpart => ?_⟩
  rw [List.getElem?_map, Option.map_eq_some_iff] at hinner
  obtain ⟨item, hitem, rfl⟩ := hinner
  obtain ⟨inner, rfl, hrelated⟩ := hparts.related k item part hitem hpart
  exact hrelated

/-- The object that a part of a list was made from. -/
theorem IsList.exists_object {key : String} {IsPart : Nat → Members → β → Prop} {parts : List β}
    {part : β} (h : IsList o key IsPart parts) (hpart : part ∈ parts) :
    ∃ k inner, IsPart k inner part := by
  obtain ⟨k, inner, -, hinner⟩ := h.placewise.exists_item hpart
  exact ⟨k, inner, hinner⟩

theorem IsNode.endpoints {n : Node} (h : IsNode site o n) (kind : EndpointKind) :
    IsList o (EntityKind.endpoint kind).listKey (IsEndpoint site kind) (n.endpoints kind) := by
  cases kind with
  | topicPub => exact h.topicPubs
  | topicSub => exact h.topicSubs
  | serviceServer => exact h.serviceServers
  | serviceClient => exact h.serviceClients

end AppConfig.Document

import AppConfig.Plan.Basic

/-! # Plans as JSON values

* `Plan.toJson`: a plan with its members in the order in which a dump shows them.
* `Summary.toJson`: the counts of a plan.

A member of a coded enumeration is written by name, and an optional file that is absent is left
out.
-/

namespace AppConfig
set_option autoImplicit false

/-- The member with this key, if there is a text for it. -/
def optionalMember (key : String) (text : Option String) : Members :=
  match text with
  | some s => [(key, .string s)]
  | none => []

def codedJson {α : Type} [Coded α] (a : α) : Json := .string (Coded.name a)

namespace Message

def toJson (m : Message) : Json :=
  .object ([("msg_type", codedJson m.format), ("name", .string m.name)]
    ++ optionalMember "src" m.source)

end Message

namespace Timer

def toJson (t : Timer) : Json :=
  .object [("id", .string t.id), ("timer_type", codedJson t.clock),
    ("period_ms", .int t.period.toNat), ("callback", .string t.callback)]

end Timer

namespace Endpoint

def toJson (kind : EndpointKind) (e : Endpoint) : Json :=
  .object [("id", .string e.id), (kind.channelKey, .string e.channel),
    ("message", e.message.toJson), ("function", .string e.function)]

end Endpoint

namespace Node

def endpointMember (n : Node) (kind : EndpointKind) : String × Json :=
  ((EntityKind.endpoint kind).listKey, .list ((n.endpoints kind).map (Endpoint.toJson kind)))

def toJson (n : Node) : Json :=
  .object ([("classname", .string n.classname)] ++ optionalMember "qos_config" n.qosConfig
    ++ (EntityKind.timer.listKey, .list (n.timers.map Timer.toJson))
      :: EndpointKind.all.map n.endpointMember)

end Node

namespace Module

def portJson (p : Port) : Json :=
  .object [("id", .string p.id), ("message", p.message.toJson)]

def toJson (m : Module) : Json :=
  .object [("module_type", m.kind.elim .null codedJson), ("inputs", .list (m.inputs.map portJson)),
    ("outputs", .list (m.outputs.map portJson))]

end Module

namespace App

def toJson (a : App) : Json :=
  .object ([("namespace", .string a.name), ("domain_id", .int a.domainId.toNat),
      ("protocol_type", codedJson a.protocol)]
    ++ optionalMember "scheduler_config" a.schedulerConfig
    ++ [("nodes", .list (a.nodes.map Node.toJson)), ("modules", .list (a.modules.map Module.toJson)),
      ("identifiers", .list (a.identifiers.map Json.string))])

end App

namespace CustomMessage

def toJson (m : CustomMessage) : Json :=
  .object [("msg_type", codedJson m.format), ("src_file", .string m.source)]

end CustomMessage

namespace Plan

def toJson (p : Plan) : Json :=
  .object [("platform", codedJson p.platform), ("lang", codedJson p.language),
    ("version", p.version.toJson), ("apps", .list (p.apps.map App.toJson)),
    ("custom_msgs", .list (p.customMessages.map CustomMessage.toJson))]

end Plan

def Summary.toJson (s : Summary) : Json :=
  .object [("apps", .int s.apps), ("nodes", .int s.nodes), ("modules", .int s.modules),
    ("timers", .int s.timers), ("topic_pubs", .int s.topicPubs), ("topic_subs", .int s.topicSubs),
    ("service_servers", .int s.serviceServers), ("service_clients", .int s.serviceClients)]

end AppConfig

import AppConfig.Naming.Entity
import AppConfig.Plan.Codes
import AppConfig.Version.Basic

/-! # Plans

A plan is what a document describes once every field is checked: a tree of apps, nodes and
entities.

* `Message`, `Timer`, `Endpoint`: the leaves.
* `Node`, `Module`, `App`, `Plan`: the tree.
* `Node.names`, `App.names`: the names in it, in the order of the document.
* `Summary`: how many parts of each sort a plan has.
-/

namespace AppConfig
set_option autoImplicit false

/-- The message that an endpoint carries. -/
structure Message where
  format : MessageFormat
  name : String
  /-- The file of the definition, as the document writes it. -/
  source : Option String
  deriving DecidableEq, Repr

structure Timer where
  id : String
  clock : TimerClock
  /-- In milliseconds. -/
  period : UInt64
  callback : String
  deriving DecidableEq, Repr

/-- A publisher, a subscriber, a server or a client. -/
structure Endpoint where
  id : String
  /-- The topic or the service. -/
  channel : String
  message : Message
  function : String
  deriving DecidableEq, Repr

/-- A unit of execution, which becomes a class. -/
structure Node where
  classname : String
  /-- The file of its quality of service, as the document writes it. -/
  qosConfig : Option String
  timers : List Timer
  topicPubs : List Endpoint
  topicSubs : List Endpoint
  serviceServers : List Endpoint
  serviceClients : List Endpoint
  deriving DecidableEq, Repr

/-- What enters or leaves a module. -/
structure Port where
  id : String
  message : Message
  deriving DecidableEq, Repr

/-- A processing module. -/
structure Module where
  kind : Option ModuleKind
  inputs : List Port
  outputs : List Port
  deriving DecidableEq, Repr

/-- An application, within which names are unique. -/
structure App where
  /-- The namespace of its code. -/
  name : String
  domainId : UInt32
  protocol : Protocol
  /-- The file of its scheduler, as the document writes it. -/
  schedulerConfig : Option String
  nodes : List Node
  modules : List Module
  /-- The names registered while the app was read, in order. -/
  identifiers : List String
  deriving DecidableEq, Repr

/-- A message definition to be generated with the app. -/
structure CustomMessage where
  format : MessageFormat
  source : String
  deriving DecidableEq, Repr

/-- What a document describes. -/
structure Plan where
  platform : Platform
  language : Language
  version : Version
  apps : List App
  customMessages : List CustomMessage
  deriving DecidableEq, Repr

/-- A module that says nothing. -/
def Module.placeholder : Module := ⟨none, [], []⟩

namespace Node

/-- The endpoints of a kind. -/
def endpoints (n : Node) : EndpointKind → List Endpoint
  | .topicPub => n.topicPubs
  | .topicSub => n.topicSubs
  | .serviceServer => n.serviceServers
  | .serviceClient => n.serviceClients

/-- How many timers and endpoints the node has. -/
def entityCount (n : Node) : Nat :=
  n.timers.length + n.topicPubs.length + n.topicSubs.length + n.serviceServers.length
    + n.serviceClients.length

/-- The names in the node: its class, then the id and the function of each entity. -/
def names (n : Node) : List String :=
  n.classname :: n.timers.flatMap (fun t => [t.id, t.callback])
    ++ EndpointKind.all.flatMap (fun k => (n.endpoints k).flatMap fun e => [e.id, e.function])

end Node

/-- The names in the nodes of the app. -/
def App.names (a : App) : List String := a.nodes.flatMap Node.names

/-! ## Counting -/

/-- How many parts of each sort a plan has. -/
structure Summary where
  apps : Nat
  nodes : Nat
  modules : Nat
  timers : Nat
  topicPubs : Nat
  topicSubs : Nat
  serviceServers : Nat
  serviceClients : Nat
  deriving DecidableEq, Repr

def Summary.display (s : Summary) : String :=
  s!"{s.apps} app(s), {s.nodes} node(s), {s.modules} module(s), {s.timers} timer(s), " ++
    s!"{s.topicPubs} pub(s), {s.topicSubs} sub(s), {s.serviceServers} server(s), " ++
    s!"{s.serviceClients} client(s)"

namespace Plan

/-- The nodes of all apps. -/
def nodes (p : Plan) : List Node := p.apps.flatMap App.nodes

/-- How many parts of each sort the plan has. -/
def summary (p : Plan) : Summary where
  apps := p.apps.length
  nodes := p.nodes.length
  modules := (p.apps.flatMap App.modules).length
  timers := (p.nodes.flatMap Node.timers).length
  topicPubs := (p.nodes.flatMap Node.topicPubs).length
  topicSubs := (p.nodes.flatMap Node.topicSubs).length
  serviceServers := (p.nodes.flatMap Node.serviceServers).length
  serviceClients := (p.nodes.flatMap Node.serviceClients).length

end Plan
end AppConfig

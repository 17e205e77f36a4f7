/-! # Entities of a node and their default names

* `EndpointKind`: the four kinds of endpoints; `EntityKind`: those and timers.
* `EntityKind.listKey`, `.functionKey`: where a document keeps entities and their functions.
* `EntityKind.defaultId`, `.defaultFunction`: the names of an entity that declares none, made
  from its kind and its place in its list.
-/

namespace AppConfig
set_option autoImplicit false

/-- What a node may exchange messages through. -/
inductive EndpointKind where
  | topicPub
  | topicSub
  | serviceServer
  | serviceClient
  deriving DecidableEq, Repr

/-- What a node may hold. -/
inductive EntityKind where
  | timer
  | endpoint (kind : EndpointKind)
  deriving DecidableEq, Repr

namespace EndpointKind

def all : List EndpointKind := [topicPub, topicSub, serviceServer, serviceClient]

/-- The key of the topic or service that an endpoint is joined to. -/
def channelKey : EndpointKind → String
  | topicPub | topicSub => "topic_name"
  | serviceServer | serviceClient => "service_name"

end EndpointKind

namespace EntityKind

def all : List EntityKind := timer :: EndpointKind.all.map endpoint

/-- The key of the list of these entities. -/
def listKey : EntityKind → String
  | timer => "timers"
  | endpoint .topicPub => "topic_pubs"
  | endpoint .topicSub => "topic_subs"
  | endpoint .serviceServer => "service_servers"
  | endpoint .serviceClient => "service_clients"

/-- The key of the name of the function of an entity. -/
def functionKey : EntityKind → String
  | timer | endpoint .topicSub => "cb_function"
  | endpoint .topicPub => "pub_function"
  | endpoint .serviceServer => "res_function"
  | endpoint .serviceClient => "req_function"

/-- The part of a default name that tells the kind. -/
def idStem : EntityKind → String
  | timer => "timer"
  | endpoint .topicPub => "topic_pub"
  | endpoint .topicSub => "topic_sub"
  | endpoint .serviceServer => "service_server"
  | endpoint .serviceClient => "service_client"

/-- The part of a default function name before the index. -/
def functionStem : EntityKind → String
  | timer => "Timer"
  | endpoint .topicPub => "TopicPub"
  | endpoint .topicSub => "TopicSub"
  | endpoint .serviceServer => "ServiceServer"
  | endpoint .serviceClient => "ServiceClient"

/-- The part of a default function name after the index. -/
def functionEnd : EntityKind → String
  | timer | endpoint .topicSub => "Cb"
  | endpoint .topicPub => "Pub"
  | endpoint .serviceServer => "Res"
  | endpoint .serviceClient => "Req"

/-- The name of the entity at `index` in its list, such as `_topic_sub_2`. -/
def defaultId (kind : EntityKind) (index : Nat) : String :=
  s!"_{kind.idStem}_{index}"

/-- The function name of the entity at `index` in its list, such as `__Timer0Cb`. -/
def defaultFunction (kind : EntityKind) (index : Nat) : String :=
  s!"__{kind.functionStem}{index}{kind.functionEnd}"

end EntityKind
end AppConfig

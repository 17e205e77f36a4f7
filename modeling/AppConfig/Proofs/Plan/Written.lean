import AppConfig.Plan.Written
import AppConfig.Proofs.Json.Canonical
import AppConfig.Proofs.Json.Comments
import AppConfig.Proofs.Json.Written

/-! # Plans and their dumps

* `writable_plan`: a plan is written without doubles, in words, and with few levels.
* `DistinctNames`: an enumeration whose members have different names.
* `toldByTree_plan`: a plan can be told from its tree, the canonical form of what is written.
* `decode_render`: the dump of a plan, in either layout, is decoded to its tree, and different plans
  have different trees.
-/

namespace AppConfig
set_option autoImplicit false
open Json (Writable canonical get?_of_canonical_eq)

/-! ## Levels -/

section Levels
variable (n : Nat)

theorem writable_word (w : UInt64) : (Json.int w.toNat).Writable n := by
  have hword := w.toNat_lt
  refine .int n (.inr ⟨?_, ?_⟩) <;> omega

theorem writable_word32 (w : UInt32) : (Json.int w.toNat).Writable n := by
  have hword := w.toNat_lt
  refine .int n (.inr ⟨?_, ?_⟩) <;> omega

theorem writable_codedJson {α : Type} [Coded α] (a : α) : (codedJson a).Writable n := .string n _

theorem writable_optionalMember (key : String) (text : Option String) :
    ∀ m ∈ optionalMember key text, m.2.Writable n := by
  cases text with
  | none => simp [optionalMember]
  | some s => simp [optionalMember, Writable.string]

variable {n} in
theorem writable_map {α : Type} {f : α → Json} (hf : ∀ a, (f a).Writable n) (items : List α) :
    (Json.list (items.map f)).Writable (n + 1) := by
  refine .list fun v hv => ?_
  obtain ⟨a, -, rfl⟩ := List.mem_map.mp hv
  exact hf a

theorem writable_message (m : Message) : m.toJson.Writable (n + 1) := by
  refine .object (List.forall_mem_append.mpr ⟨?_, writable_optionalMember n _ _⟩)
  simp [writable_codedJson, Writable.string]

theorem writable_timer (t : Timer) : t.toJson.Writable (n + 1) := by
  refine .object ?_
  simp [writable_codedJson, writable_word, Writable.string]

theorem writable_endpoint (kind : EndpointKind) (e : Endpoint) :
    (e.toJson kind).Writable (n + 2) := by
  refine .object ?_
  simp [writable_message, Writable.string]

theorem writable_node (a : Node) : a.toJson.Writable (n + 4) := by
  have htimers := writable_map (n := n + 2) (writable_timer (n + 1)) a.timers
  have hendpoints : ∀ kind, (a.endpointMember kind).2.Writable (n + 3) :=
    fun kind => writable_map (writable_endpoint n kind) (a.endpoints kind)
  refine .object (List.forall_mem_append.mpr ⟨?_, ?_⟩)
  · refine List.forall_mem_append.mpr ⟨?_, writable_optionalMember _ _ _⟩
    simp [Writable.string]
  · refine List.forall_mem_cons.mpr ⟨htimers, fun m hm => ?_⟩
    obtain ⟨kind, -, rfl⟩ := List.mem_map.mp hm
    exact hendpoints kind

theorem writable_port (p : Port) : (Module.portJson p).Writable (n + 2) := by
  refine .object ?_
  simp [writable_message, Writable.string]

theorem writable_module (m : Module) : m.toJson.Writable (n + 4) := by
  have hkind : (m.kind.elim .null codedJson).Writable (n + 3) := by
    cases m.kind with
    | none => exact .null _
    | some kind => exact writable_codedJson _ kind
  refine .object ?_
  simp [hkind, writable_map (writable_port n)]

theorem writable_app (a : App) : a.toJson.Writable (n + 6) := by
  have hnodes := writable_map (writable_node n) a.nodes
  have hmodules := writable_map (writable_module n) a.modules
  have hidentifiers := writable_map (Writable.string (n + 4)) a.identifiers
  refine .object (List.forall_mem_append.mpr ⟨List.forall_mem_append.mpr ⟨?_, ?_⟩, ?_⟩)
  · simp [writable_codedJson, writable_word32, Writable.string]
  · exact writable_optionalMember _ _ _
  · simp [hnodes, hmodules, hidentifiers]

theorem writable_version (v : Version) : v.toJson.Writable (n + 1) := by
  refine .object ?_
  simp [writable_word]

theorem writable_customMessage (m : CustomMessage) : m.toJson.Writable (n + 1) := by
  refine .object ?_
  simp [writable_codedJson, Writable.string]

theorem writable_plan (p : Plan) : p.toJson.Writable (n + 8) := by
  have happs := writable_map (writable_app n) p.apps
  have hmessages := writable_map (writable_customMessage (n + 5)) p.customMessages
  refine .object ?_
  simp [writable_codedJson, writable_version, happs, hmessages]

end Levels

/-! ## Names of members -/

/-- The members have different names. -/
class DistinctNames (α : Type) [Coded α] : Prop where
  name_injective : Function.Injective (Coded.name : α → String)

instance : DistinctNames Platform where
  name_injective := by intro a b; cases a <;> cases b <;> decide

instance : DistinctNames Language where
  name_injective := by intro a b; cases a <;> cases b <;> decide

instance : DistinctNames Protocol where
  name_injective := by intro a b; cases a <;> cases b <;> decide

instance : DistinctNames MessageFormat where
  name_injective := by intro a b; cases a <;> cases b <;> decide

instance : DistinctNames TimerClock where
  name_injective := by intro a b; cases a <;> cases b <;> decide

instance : DistinctNames ModuleKind where
  name_injective := by intro a b; cases a <;> cases b <;> decide

/-! ## Trees -/

/-- The value can be told from its tree, the canonical form of what is written of it. -/
def ToldByTree {α : Type} (write : α → Json) : Prop :=
  Function.Injective fun a => (write a).canonical

theorem toldByTree_string : ToldByTree Json.string := fun _ _ h => Json.string.inj h

theorem toldByTree_coded (α : Type) [Coded α] [DistinctNames α] :
    ToldByTree (codedJson : α → Json) :=
  fun _ _ h => DistinctNames.name_injective (Json.string.inj h)

theorem toldByTree_word : ToldByTree fun w : UInt64 => .int w.toNat := by
  intro a b h
  have hnat : (a.toNat : Int) = b.toNat := Json.int.inj h
  exact UInt64.toNat_inj.mp (Int.ofNat_inj.mp hnat)

theorem toldByTree_word32 : ToldByTree fun w : UInt32 => .int w.toNat := by
  intro a b h
  have hnat : (a.toNat : Int) = b.toNat := Json.int.inj h
  exact UInt32.toNat_inj.mp (Int.ofNat_inj.mp hnat)

theorem toldByTree_kind : ToldByTree fun k : Option ModuleKind => k.elim .null codedJson := by
  intro a b h
  cases a with
  | none =>
    cases b with
    | none => rfl
    | some b => cases h
  | some a =>
    cases b with
    | none => cases h
    | some b => rw [toldByTree_coded ModuleKind h]

theorem ToldByTree.list {α : Type} {write : α → Json} (h : ToldByTree write) :
    ToldByTree fun items : List α => .list (items.map write) :=
  Json.canonical_list_injective h

theorem get?_optionalMember (key k : String) (text : Option String) :
    (optionalMember k text).get? key = if k = key then text.map .string else none := by
  cases text with
  | none => simp [optionalMember, Members.get?]
  | some s => simp [optionalMember, Members.get?]

/-- Whether the optional member is there does not matter to keys that are distinct with it. -/
theorem nodup_keys {before after : Members} {key : String} (text : Option String)
    (h : (before.map Prod.fst ++ key :: after.map Prod.fst).Nodup) :
    ((before ++ optionalMember key text ++ after).map Prod.fst).Nodup := by
  rw [List.append_assoc, List.map_append, List.map_append]
  cases text with
  | none => exact h.sublist ((List.Sublist.refl _).append (List.sublist_cons_self key _))
  | some s => exact h

theorem map_string_injective {a b : Option String}
    (h : (a.map Json.string).map canonical = (b.map Json.string).map canonical) : a = b := by
  rw [Option.map_map, Option.map_map] at h
  exact Option.map_injective toldByTree_string h

/-- A record can be told from its tree if it can be told from the values under the keys of what is
written of it. -/
theorem toldByTree_object {α : Type} {members : α → Members}
    (hkeys : ∀ a, ((members a).map Prod.fst).Nodup)
    (h : ∀ a b, (∀ key, ((members a).get? key).map canonical =
      ((members b).get? key).map canonical) → a = b) :
    ToldByTree fun a => .object (members a) :=
  fun a b htree => h a b (get?_of_canonical_eq (hkeys a) (hkeys b) htree)

attribute [ext] Version Message Timer Endpoint Node Port Module App CustomMessage Plan

theorem toldByTree_version : ToldByTree Version.toJson := by
  refine toldByTree_object (fun a => by simp) fun a b h => ?_
  simp only [Members.get?_cons, Members.get?_nil] at h
  have hmajor : a.major = b.major := toldByTree_word (by simpa using h "major")
  have hminor : a.minor = b.minor := toldByTree_word (by simpa using h "minor")
  have hpatch : a.patch = b.patch := toldByTree_word (by simpa using h "patch")
  have hbuild : a.build = b.build := toldByTree_word (by simpa using h "build")
  exact Version.ext hmajor hminor hpatch hbuild

theorem toldByTree_message : ToldByTree Message.toJson := by
  refine toldByTree_object (fun a => by cases a.source <;> simp [optionalMember]) fun a b h => ?_
  simp only [Members.get?_append, get?_optionalMember, Members.get?_cons, Members.get?_nil] at h
  have hformat : a.format = b.format := toldByTree_coded _ (by simpa using h "msg_type")
  have hname : a.name = b.name := toldByTree_string (by simpa using h "name")
  have hsource : a.source = b.source := map_string_injective (by simpa using h "src")
  exact Message.ext hformat hname hsource

theorem toldByTree_timer : ToldByTree Timer.toJson := by
  refine toldByTree_object (fun a => by simp) fun a b h => ?_
  simp only [Members.get?_cons, Members.get?_nil] at h
  have hid : a.id = b.id := toldByTree_string (by simpa using h "id")
  have hclock : a.clock = b.clock := toldByTree_coded _ (by simpa using h "timer_type")
  have hperiod : a.period = b.period := toldByTree_word (by simpa using h "period_ms")
  have hcallback : a.callback = b.callback := toldByTree_string (by simpa using h "callback")
  exact Timer.ext hid hclock hperiod hcallback

theorem toldByTree_endpoint (kind : EndpointKind) : ToldByTree (Endpoint.toJson kind) := by
  have hkey : kind.channelKey ≠ "id" ∧ kind.channelKey ≠ "message" ∧
      kind.channelKey ≠ "function" := by
    cases kind <;> decide
  refine toldByTree_object (fun a => by simp [hkey, hkey.1.symm]) fun a b h => ?_
  simp only [Members.get?_cons, Members.get?_nil] at h
  have hid : a.id = b.id := toldByTree_string (by simpa using h "id")
  have hchannel : a.channel = b.channel :=
    toldByTree_string (by simpa [hkey.1.symm] using h kind.channelKey)
  have hmessage : a.message = b.message :=
    toldByTree_message (by simpa [hkey] using h "message")
  have hfunction : a.function = b.function :=
    toldByTree_string (by simpa [hkey] using h "function")
  exact Endpoint.ext hid hchannel hmessage hfunction

/-- The members of a node in the order of its dump. -/
def nodeMembers (a : Node) : Members :=
  [("classname", .string a.classname)] ++ optionalMember "qos_config" a.qosConfig ++
    ("timers", .list (a.timers.map Timer.toJson)) :: EndpointKind.all.map a.endpointMember

section Node
variable (a : Node)

theorem toJson_node : a.toJson = .object (nodeMembers a) := rfl

theorem map_fst_endpointMembers : (EndpointKind.all.map a.endpointMember).map Prod.fst =
    ["topic_pubs", "topic_subs", "service_servers", "service_clients"] := rfl

theorem get?_endpointMembers (kind : EndpointKind) :
    Members.get? (EntityKind.endpoint kind).listKey (EndpointKind.all.map a.endpointMember) =
      some (.list ((a.endpoints kind).map (Endpoint.toJson kind))) := by
  cases kind <;> simp [EndpointKind.all, Node.endpointMember, EntityKind.listKey, Members.get?]

theorem get?_endpointMembers_of_ne {key : String}
    (h : key ∉ ["topic_pubs", "topic_subs", "service_servers", "service_clients"]) :
    Members.get? key (EndpointKind.all.map a.endpointMember) = none :=
  Members.get?_eq_none (by rwa [map_fst_endpointMembers])

theorem listKey_endpoint_ne (kind : EndpointKind) :
    "classname" ≠ (EntityKind.endpoint kind).listKey ∧
      "qos_config" ≠ (EntityKind.endpoint kind).listKey ∧
        "timers" ≠ (EntityKind.endpoint kind).listKey := by
  cases kind <;> decide

theorem nodup_nodeKeys : ((nodeMembers a).map Prod.fst).Nodup :=
  nodup_keys a.qosConfig (show ["classname", "qos_config", "timers", "topic_pubs", "topic_subs",
    "service_servers", "service_clients"].Nodup by decide)

end Node

theorem toldByTree_node : ToldByTree Node.toJson := by
  intro a b htree
  simp only [toJson_node] at htree
  have h := get?_of_canonical_eq (nodup_nodeKeys a) (nodup_nodeKeys b) htree
  simp only [nodeMembers, Members.get?_append, get?_optionalMember, Members.get?_cons,
    Members.get?_nil] at h
  have hclassname : a.classname = b.classname := toldByTree_string (by simpa using h "classname")
  have hqos : a.qosConfig = b.qosConfig := by
    have hkey := h "qos_config"
    rw [get?_endpointMembers_of_ne a (by decide), get?_endpointMembers_of_ne b (by decide)] at hkey
    exact map_string_injective (by simpa using hkey)
  have htimers : a.timers = b.timers := toldByTree_timer.list (by simpa using h "timers")
  have hendpoints : ∀ kind, a.endpoints kind = b.endpoints kind := by
    intro kind
    obtain ⟨hclass, hconfig, htimer⟩ := listKey_endpoint_ne kind
    have hkey := h (EntityKind.endpoint kind).listKey
    rw [get?_endpointMembers, get?_endpointMembers, if_neg hclass, if_neg hconfig, if_neg htimer]
      at hkey
    exact (toldByTree_endpoint kind).list (by simpa [hclass, hconfig, htimer] using hkey)
  exact Node.ext hclassname hqos htimers (hendpoints .topicPub) (hendpoints .topicSub)
    (hendpoints .serviceServer) (hendpoints .serviceClient)

theorem toldByTree_port : ToldByTree Module.portJson := by
  refine toldByTree_object (fun a => by simp) fun a b h => ?_
  simp only [Members.get?_cons, Members.get?_nil] at h
  have hid : a.id = b.id := toldByTree_string (by simpa using h "id")
  have hmessage : a.message = b.message := toldByTree_message (by simpa using h "message")
  exact Port.ext hid hmessage

theorem toldByTree_module : ToldByTree Module.toJson := by
  refine toldByTree_object (fun a => by simp) fun a b h => ?_
  simp only [Members.get?_cons, Members.get?_nil] at h
  have hkind : a.kind = b.kind := toldByTree_kind (by simpa using h "module_type")
  have hinputs : a.inputs = b.inputs := toldByTree_port.list (by simpa using h "inputs")
  have houtputs : a.outputs = b.outputs := toldByTree_port.list (by simpa using h "outputs")
  exact Module.ext hkind hinputs houtputs

theorem toldByTree_app : ToldByTree App.toJson := by
  have hkeys : ["namespace", "domain_id", "protocol_type", "scheduler_config", "nodes", "modules",
      "identifiers"].Nodup := by
    decide
  refine toldByTree_object (fun a => nodup_keys a.schedulerConfig hkeys) fun a b h => ?_
  simp only [Members.get?_append, get?_optionalMember, Members.get?_cons, Members.get?_nil] at h
  have hname : a.name = b.name := toldByTree_string (by simpa using h "namespace")
  have hdomain : a.domainId = b.domainId := toldByTree_word32 (by simpa using h "domain_id")
  have hprotocol : a.protocol = b.protocol := toldByTree_coded _ (by simpa using h "protocol_type")
  have hscheduler : a.schedulerConfig = b.schedulerConfig :=
    map_string_injective (by simpa using h "scheduler_config")
  have hnodes : a.nodes = b.nodes := toldByTree_node.list (by simpa using h "nodes")
  have hmodules : a.modules = b.modules := toldByTree_module.list (by simpa using h "modules")
  have hidentifiers : a.identifiers = b.identifiers :=
    toldByTree_string.list (by simpa using h "identifiers")
  exact App.ext hname hdomain hprotocol hscheduler hnodes hmodules hidentifiers

theorem toldByTree_customMessage : ToldByTree CustomMessage.toJson := by
  refine toldByTree_object (fun a => by simp) fun a b h => ?_
  simp only [Members.get?_cons, Members.get?_nil] at h
  have hformat : a.format = b.format := toldByTree_coded _ (by simpa using h "msg_type")
  have hsource : a.source = b.source := toldByTree_string (by simpa using h "src_file")
  exact CustomMessage.ext hformat hsource

theorem toldByTree_plan : ToldByTree Plan.toJson := by
  refine toldByTree_object (fun a => by simp) fun a b h => ?_
  simp only [Members.get?_cons, Members.get?_nil] at h
  have hplatform : a.platform = b.platform := toldByTree_coded _ (by simpa using h "platform")
  have hlanguage : a.language = b.language := toldByTree_coded _ (by simpa using h "lang")
  have hversion : a.version = b.version := toldByTree_version (by simpa using h "version")
  have happs : a.apps = b.apps := toldByTree_app.list (by simpa using h "apps")
  have hmessages : a.customMessages = b.customMessages :=
    toldByTree_customMessage.list (by simpa using h "custom_msgs")
  exact Plan.ext hplatform hlanguage hversion happs hmessages

/-! ## Dumps -/

theorem decode_of_read {text : String} {v : Json} (h : Json.read text.toList = .ok v) :
    (decode text).result = .ok v.canonical := by
  have hread : Json.read (Text.uncomment text.toList) = .ok v := Json.read_uncomment h
  rw [decode_result_ok, Json.decode_eq_ok]
  exact ⟨v, hread, rfl⟩

/-- The dump of a plan in either layout is decoded, comment lines and all, to the tree of the plan,
and no other plan has this tree. -/
theorem decode_render (p : Plan) :
    (∀ layout, (decode (p.toJson.render layout)).result = .ok p.toJson.canonical) ∧
      ∀ q : Plan, q ≠ p → q.toJson.canonical ≠ p.toJson.canonical := by
  constructor
  · intro layout
    apply decode_of_read
    rw [Json.render, String.toList_ofList]
    exact Json.read_write (writable_plan 0 p) (by decide) layout
  · intro q hne htree
    exact hne (toldByTree_plan htree)

end AppConfig

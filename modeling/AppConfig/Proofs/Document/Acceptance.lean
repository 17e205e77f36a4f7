import AppConfig.Proofs.Document.Reading
import AppConfig.Proofs.Document.WellFormed
import AppConfig.Proofs.Naming.Defaults

/-! # Which documents are read

`exists_readDocument_ok`: a document has a plan exactly when it is well formed. Level by level, a
part can be described exactly when its object is well formed, and the names of a part are then
those of its object.
-/

namespace AppConfig.Document
set_option autoImplicit false
open Fields (present? objectsAt)

variable {β : Type} {site : Site} {o : Members} {key default : String}

/-! ## Fields -/

/-- A key that has to have a value of the form `w b`. -/
theorem required_iff {w : β → Json} {Q : β → Prop} :
    Required o key (fun v => ∃ b, v = w b ∧ Q b) ↔ ∃ b, present? o key = some (w b) ∧ Q b := by
  constructor
  · rintro ⟨v, hv, b, rfl, hb⟩
    exact ⟨b, hv, hb⟩
  · rintro ⟨b, hv, hb⟩
    exact ⟨w b, hv, b, rfl, hb⟩

/-- A key that may have a value of that form. -/
theorem optional_iff {w : β → Json} {Q : β → Prop} :
    Optional o key (fun v => ∃ b, v = w b ∧ Q b) ↔ ∃ declared : Option β,
      present? o key = declared.map w ∧ ∀ b, declared = some b → Q b := by
  constructor
  · intro h
    cases hkey : present? o key with
    | none => exact ⟨none, rfl, fun b hb => by cases hb⟩
    | some v =>
      obtain ⟨b, rfl, hb⟩ := h v hkey
      refine ⟨some b, rfl, ?_⟩
      rintro b' ⟨⟩
      exact hb
  · rintro ⟨declared, hkey, hdeclared⟩ v hv
    rw [hkey] at hv
    obtain ⟨b, rfl, rfl⟩ := Option.map_eq_some_iff.mp hv
    exact ⟨b, rfl, hdeclared b rfl⟩

theorem exists_text : (∃ s, present? o key = some (.string s)) ↔ Required o key IsText := by
  constructor
  · rintro ⟨s, hs⟩
    exact ⟨.string s, hs, s, rfl⟩
  · rintro ⟨v, hv, s, rfl⟩
    exact ⟨s, hv⟩

theorem exists_name :
    (∃ s, present? o key = some (.string s) ∧ Identifier.isValid s = true) ↔
      Required o key IsName := required_iff.symm

theorem exists_symbol (hdefault : Identifier.isValid default = true) :
    (∃ name, IsSymbol o key default name) ↔ Optional o key IsName := by
  constructor
  · rintro ⟨name, ⟨declared, hkey, rfl⟩, hvalid⟩
    refine optional_iff.mpr ⟨declared, hkey, ?_⟩
    rintro s rfl
    exact hvalid
  · intro h
    obtain ⟨declared, hkey, hvalid⟩ := optional_iff.mp h
    refine ⟨declared.getD default, ⟨declared, hkey, rfl⟩, ?_⟩
    cases declared with
    | none => exact hdefault
    | some s => exact hvalid s rfl

theorem exists_reference :
    (∃ reference, IsReference site o key reference) ↔ Optional o key (IsFile site) := by
  constructor
  · rintro ⟨reference, h⟩
    exact optional_iff.mpr ⟨reference, h.verbatim, h.exists_file⟩
  · intro h
    obtain ⟨reference, hkey, hfile⟩ := optional_iff.mp h
    exact ⟨reference, hkey, hfile⟩

theorem exists_code (α : Type) [Coded α] [LawfulCoded α] :
    (∃ a : α, present? o key = some (.int (Coded.code a))) ↔
      Required o key (IsCode (Coded.kind α)) := by
  constructor
  · rintro ⟨a, ha⟩
    have hdeclared : (Coded.kind α, (Coded.all : List α).map Coded.code) ∈ declaredCodes :=
      LawfulCoded.declared
    exact ⟨_, ha, _, hdeclared, Coded.code a, (Coded.mem_declared hdeclared _).mpr ⟨a, rfl⟩, rfl⟩
  · rintro ⟨v, hv, codes, hdeclared, n, hn, rfl⟩
    obtain ⟨a, rfl⟩ := (Coded.mem_declared hdeclared n).mp hn
    exact ⟨a, hv⟩

theorem exists_natural :
    (∃ w : UInt64, present? o key = some (.int w.toNat)) ↔ Required o key (IsBelow UInt64.size) := by
  constructor
  · rintro ⟨w, hw⟩
    exact ⟨_, hw, w.toNat, w.toNat_lt, rfl⟩
  · rintro ⟨v, hv, n, hn, rfl⟩
    refine ⟨UInt64.ofNat n, ?_⟩
    rw [hv, UInt64.toNat_ofNat_of_lt' hn]

theorem exists_domain :
    (∃ id : UInt32, ∃ declared : Option UInt32,
      present? o key = declared.map (fun w => .int w.toNat) ∧ id = declared.getD 0) ↔
      Optional o key (IsBelow UInt32.size) := by
  constructor
  · rintro ⟨id, declared, hkey, -⟩ v hv
    rw [hkey] at hv
    cases declared with
    | none => cases hv
    | some w =>
      obtain rfl : Json.int w.toNat = v := Option.some.inj hv
      exact ⟨w.toNat, w.toNat_lt, rfl⟩
  · intro h
    cases hkey : present? o key with
    | none => exact ⟨0, none, rfl, rfl⟩
    | some v =>
      obtain ⟨n, hn, rfl⟩ := h v hkey
      refine ⟨UInt32.ofNat n, some (UInt32.ofNat n), ?_, rfl⟩
      rw [Option.map_some, UInt32.toNat_ofNat_of_lt' hn]

theorem isUnused_iff : IsUnused o key ↔ Optional o key (· = .list []) := by
  unfold IsUnused Optional
  cases present? o key with
  | none => simp
  | some v => simp

theorem exists_version :
    (∃ version : Version, ∃ text, present? o key = some (.string text) ∧ version.IsWritten text) ↔
      Required o key IsVersion := by
  simp only [← Version.ofText_result_ok]
  constructor
  · rintro ⟨version, text, htext, hversion⟩
    exact ⟨_, htext, text, version, rfl, hversion⟩
  · rintro ⟨v, hv, text, version, rfl, hversion⟩
    exact ⟨version, text, hv, hversion⟩

/-! ## Lists -/

section Lists
variable {IsPart : Nat → Members → β → Prop}

theorem exists_list {P : Members → Prop} (h : ∀ k inner, (∃ part, IsPart k inner part) ↔ P inner) :
    (∃ parts, IsList o key IsPart parts) ↔ Optional o key (IsListOf P) := by
  constructor
  · rintro ⟨parts, declared, hkey, hparts⟩
    refine optional_iff.mpr ⟨declared, hkey, ?_⟩
    rintro items rfl item hitem
    obtain ⟨k, hk⟩ := List.mem_iff_getElem?.mp hitem
    obtain ⟨part, -, inner, hinner, hpart⟩ := hparts.exists_part hk
    exact ⟨inner, hinner, (h k inner).mp ⟨part, hpart⟩⟩
  · intro hlist
    obtain ⟨declared, hkey, hitems⟩ := optional_iff.mp hlist
    have hparts : ∀ k item, (declared.getD [])[k]? = some item →
        ∃ part inner, item = .object inner ∧ IsPart k inner part := by
      intro k item hk
      cases declared with
      | none => cases hk
      | some items =>
        obtain ⟨inner, hinner, hP⟩ := hitems items rfl item (List.mem_of_getElem? hk)
        obtain ⟨part, hpart⟩ := (h k inner).mpr hP
        exact ⟨part, inner, hinner, hpart⟩
    obtain ⟨parts, hparts⟩ := exists_placewise.mpr hparts
    exact ⟨parts, declared, hkey, hparts⟩

/-- A list that has to be there. -/
theorem exists_required_list {P : Members → Prop}
    (h : ∀ k inner, (∃ part, IsPart k inner part) ↔ P inner) :
    (present? o key ≠ none ∧ ∃ parts, IsList o key IsPart parts) ↔ Required o key (IsListOf P) := by
  rw [exists_list h]
  constructor
  · rintro ⟨hthere, hlist⟩
    obtain ⟨v, hv⟩ := Option.ne_none_iff_exists'.mp hthere
    exact ⟨v, hv, hlist v hv⟩
  · rintro ⟨v, hv, hlist⟩
    refine ⟨by simp [hv], fun v' hv' => ?_⟩
    obtain rfl : v = v' := Option.some.inj (hv.symm.trans hv')
    exact hlist

end Lists

/-! ## Entities -/

theorem exists_timer {index : Nat} : (∃ t, IsTimer index o t) ↔ WellFormedTimer o := by
  have hid : Identifier.isValid (EntityKind.timer.defaultId index) = true :=
    EntityKind.isValid_defaultId _ index
  have hcallback : Identifier.isValid (EntityKind.timer.defaultFunction index) = true :=
    EntityKind.isValid_defaultFunction _ index
  constructor
  · rintro ⟨t, h⟩
    exact ⟨(exists_symbol hid).mp ⟨_, h.id⟩, (exists_code TimerClock).mp ⟨_, h.clock⟩,
      exists_natural.mp ⟨_, h.period⟩, (exists_symbol hcallback).mp ⟨_, h.callback⟩⟩
  · intro h
    obtain ⟨id, hid⟩ := (exists_symbol hid).mpr h.id
    obtain ⟨clock, hclock⟩ := (exists_code TimerClock).mpr h.clock
    obtain ⟨period, hperiod⟩ := exists_natural.mpr h.period
    obtain ⟨callback, hcallback⟩ := (exists_symbol hcallback).mpr h.callback
    exact ⟨⟨id, clock, period, callback⟩, hid, hclock, hperiod, hcallback⟩

theorem exists_message : (∃ m, IsMessage site o m) ↔ WellFormedMessage site o := by
  constructor
  · rintro ⟨m, h⟩
    exact ⟨exists_text.mp ⟨_, h.name⟩, (exists_code MessageFormat).mp ⟨_, h.format⟩,
      exists_reference.mp ⟨_, h.source⟩⟩
  · intro h
    obtain ⟨name, hname⟩ := exists_text.mpr h.name
    obtain ⟨format, hformat⟩ := (exists_code MessageFormat).mpr h.format
    obtain ⟨source, hsource⟩ := exists_reference.mpr h.source
    exact ⟨⟨format, name, source⟩, hname, hformat, hsource⟩

theorem exists_endpoint {kind : EndpointKind} {index : Nat} :
    (∃ e, IsEndpoint site kind index o e) ↔ WellFormedEndpoint site kind o := by
  have hid := EntityKind.isValid_defaultId (.endpoint kind) index
  have hfunction := EntityKind.isValid_defaultFunction (.endpoint kind) index
  constructor
  · rintro ⟨e, h⟩
    exact ⟨(exists_symbol hid).mp ⟨_, h.id⟩, exists_text.mp ⟨_, h.channel⟩,
      exists_message.mp ⟨_, h.message⟩, (exists_symbol hfunction).mp ⟨_, h.function⟩⟩
  · intro h
    obtain ⟨id, hid⟩ := (exists_symbol hid).mpr h.id
    obtain ⟨channel, hchannel⟩ := exists_text.mpr h.channel
    obtain ⟨message, hmessage⟩ := exists_message.mpr h.message
    obtain ⟨function, hfunction⟩ := (exists_symbol hfunction).mpr h.function
    exact ⟨⟨id, channel, message, function⟩, hid, hchannel, hmessage, hfunction⟩

theorem IsSymbol.nameOr_eq {name : String} (h : IsSymbol o key default name) :
    nameOr o key default = name := by
  obtain ⟨declared, hkey, rfl⟩ := h.declared
  unfold nameOr
  rw [hkey]
  cases declared <;> rfl

theorem IsTimer.names {index : Nat} {t : Timer} (h : IsTimer index o t) :
    entityNames .timer index o = [t.id, t.callback] := by
  rw [entityNames, h.id.nameOr_eq]
  exact congrArg (fun name => [t.id, name]) h.callback.nameOr_eq

theorem IsEndpoint.names {kind : EndpointKind} {index : Nat} {e : Endpoint}
    (h : IsEndpoint site kind index o e) :
    entityNames (.endpoint kind) index o = [e.id, e.function] := by
  rw [entityNames, h.id.nameOr_eq, h.function.nameOr_eq]

/-! ## Nodes -/

theorem exists_node : (∃ n, IsNode site o n) ↔ WellFormedNode site o := by
  have htimers : ∀ (k : Nat) inner, (∃ t, IsTimer k inner t) ↔ WellFormedTimer inner :=
    fun _ _ => exists_timer
  have hendpoints : ∀ kind (k : Nat) inner, (∃ e, IsEndpoint site kind k inner e) ↔
      WellFormedEndpoint site kind inner := fun _ _ _ => exists_endpoint
  constructor
  · rintro ⟨n, h⟩
    exact ⟨exists_name.mp ⟨_, h.classname, h.valid⟩, exists_reference.mp ⟨_, h.qosConfig⟩,
      (exists_list htimers).mp ⟨_, h.timers⟩,
      fun kind => (exists_list (hendpoints kind)).mp ⟨_, h.endpoints kind⟩,
      isUnused_iff.mp h.actionServers, isUnused_iff.mp h.actionClients⟩
  · intro h
    obtain ⟨classname, hclass, hvalid⟩ := exists_name.mpr h.classname
    obtain ⟨qosConfig, hqos⟩ := exists_reference.mpr h.qosConfig
    obtain ⟨timers, htimers⟩ := (exists_list htimers).mpr h.timers
    have hlist := fun kind => (exists_list (hendpoints kind)).mpr (h.endpoints kind)
    obtain ⟨topicPubs, hpubs⟩ := hlist .topicPub
    obtain ⟨topicSubs, hsubs⟩ := hlist .topicSub
    obtain ⟨serviceServers, hservers⟩ := hlist .serviceServer
    obtain ⟨serviceClients, hclients⟩ := hlist .serviceClient
    exact ⟨⟨classname, qosConfig, timers, topicPubs, topicSubs, serviceServers, serviceClients⟩,
      hclass, hvalid, hqos, htimers, hpubs, hsubs, hservers, hclients,
      isUnused_iff.mpr h.actionServers, isUnused_iff.mpr h.actionClients⟩

theorem IsNode.names {n : Node} (h : IsNode site o n) : nodeNames o = n.names := by
  have hclass : nameOr o "classname" "" = n.classname := by
    rw [nameOr, h.classname]
  have htimers : (objectsAt o "timers").mapIdx (entityNames .timer) =
      n.timers.map fun t => [t.id, t.callback] :=
    h.timers.placewise.mapIdx_eq fun _ _ _ _ _ ht => ht.names
  have hendpoints : ∀ kind : EndpointKind,
      (objectsAt o (EntityKind.endpoint kind).listKey).mapIdx (entityNames (.endpoint kind)) =
        (n.endpoints kind).map fun e => [e.id, e.function] :=
    fun kind => (h.endpoints kind).placewise.mapIdx_eq fun _ _ _ _ _ he => he.names
  rw [nodeNames, Node.names, hclass, EntityKind.all, List.flatMap_cons, List.flatMap_map]
  simp only [hendpoints, ← List.flatMap_def]
  rw [show EntityKind.timer.listKey = "timers" from rfl, htimers, ← List.flatMap_def]
  rfl

/-! ## Apps and documents -/

theorem IsList.appNames_eq {nodes : List Node}
    (h : IsList o "nodes" (fun _ => IsNode site) nodes) : appNames o = nodes.flatMap Node.names := by
  rw [appNames, List.flatMap_def, List.flatMap_def]
  exact congrArg List.flatten (h.placewise.map_eq fun _ _ _ _ _ hn => hn.names)

theorem exists_nodes :
    (present? o "nodes" ≠ none ∧ ∃ nodes, IsList o "nodes" (fun _ => IsNode site) nodes) ↔
      Required o "nodes" (IsListOf (WellFormedNode site)) :=
  exists_required_list fun _ _ => exists_node

theorem exists_modules :
    (∃ modules, IsList o "modules" (fun _ _ m => m = Module.placeholder) modules) ↔
      Optional o "modules" (IsListOf fun _ => True) :=
  exists_list fun _ _ => ⟨fun _ => trivial, fun _ => ⟨_, rfl⟩⟩

theorem exists_app : (∃ a, IsApp site o a) ↔ WellFormedApp site o := by
  constructor
  · rintro ⟨a, h⟩
    have hdistinct : (appNames o).Nodup := by
      rw [h.nodes.appNames_eq]
      exact h.distinct
    exact ⟨exists_name.mp ⟨_, h.name, h.valid⟩, exists_domain.mp ⟨_, h.domainId⟩,
      (exists_code Protocol).mp ⟨_, h.protocol⟩, exists_reference.mp ⟨_, h.schedulerConfig⟩,
      exists_nodes.mp ⟨h.required, _, h.nodes⟩, exists_modules.mp ⟨_, h.modules⟩, hdistinct⟩
  · intro h
    obtain ⟨name, hname, hvalid⟩ := exists_name.mpr h.name
    obtain ⟨domainId, hdomain⟩ := exists_domain.mpr h.domainId
    obtain ⟨protocol, hprotocol⟩ := (exists_code Protocol).mpr h.protocol
    obtain ⟨schedulerConfig, hscheduler⟩ := exists_reference.mpr h.schedulerConfig
    obtain ⟨hthere, nodes, hnodes⟩ := exists_nodes.mpr h.nodes
    obtain ⟨modules, hmodules⟩ := exists_modules.mpr h.modules
    have hdistinct : (nodes.flatMap Node.names).Nodup := by
      rw [← hnodes.appNames_eq]
      exact h.distinct
    exact ⟨⟨name, domainId, protocol, schedulerConfig, nodes, modules, nodes.flatMap Node.names⟩,
      hname, hvalid, hdomain, hprotocol, hscheduler, hthere, hnodes, hmodules, rfl, hdistinct⟩

theorem exists_plan : (∃ p, IsPlan site o p) ↔ WellFormedRoot site o := by
  have happs : ∀ (k : Nat) inner, (∃ a, IsApp site inner a) ↔ WellFormedApp site inner :=
    fun _ _ => exists_app
  constructor
  · rintro ⟨p, h⟩
    exact ⟨exists_version.mp ⟨_, h.version⟩, (exists_code Platform).mp ⟨_, h.platform⟩,
      (exists_code Language).mp ⟨_, h.language⟩, (exists_required_list happs).mp ⟨h.required, _, h.apps⟩⟩
  · intro h
    obtain ⟨version, hversion⟩ := exists_version.mpr h.version
    obtain ⟨platform, hplatform⟩ := (exists_code Platform).mpr h.platform
    obtain ⟨language, hlanguage⟩ := (exists_code Language).mpr h.language
    obtain ⟨hthere, apps, happs⟩ := (exists_required_list happs).mpr h.apps
    exact ⟨⟨platform, language, version, apps, []⟩, hversion, hplatform, hlanguage, hthere, happs,
      rfl⟩

/-- A document has a plan exactly when it is well formed. -/
theorem exists_readDocument_ok {site : Site} {doc : Json} :
    (∃ plan, (readDocument site doc).result = .ok plan) ↔ WellFormed site doc := by
  simp only [readDocument_result_ok, Describes, WellFormed]
  constructor
  · rintro ⟨plan, o, ho, h⟩
    exact ⟨o, ho, exists_plan.mp ⟨plan, h⟩⟩
  · rintro ⟨o, ho, h⟩
    obtain ⟨plan, hplan⟩ := exists_plan.mpr h
    exact ⟨plan, o, ho, hplan⟩

end AppConfig.Document

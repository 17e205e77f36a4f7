import AppConfig.Proofs.Document.Description
import AppConfig.Proofs.Document.Registered
import AppConfig.Proofs.Naming.Repeated

/-! # Readers end with what the document describes

`readDocument_result_ok`: reading a document ends with a plan exactly when the document describes
that plan. One equivalence for each reader, from the fields up.
-/

namespace AppConfig.Document
set_option autoImplicit false
open Outcome
open Fields (present?)

variable {β : Type}

/-! ## Fields -/

theorem declaredOr_result_ok {o : Members} {key default name : String} :
    (declaredOr o key default).result = .ok name ↔ ∃ declared : Option String,
      present? o key = declared.map .string ∧ name = declared.getD default := by
  simp only [declaredOr, bind_result_ok, Fields.optionalText_result_ok]
  constructor
  · rintro ⟨declared, hkey, hname⟩
    refine ⟨declared, hkey, ?_⟩
    cases declared with
    | none =>
      obtain ⟨u, -, hname⟩ := bind_result_ok.mp hname
      exact (Except.ok.inj hname).symm
    | some s => exact (Except.ok.inj hname).symm
  · rintro ⟨declared, hkey, rfl⟩
    refine ⟨declared, hkey, ?_⟩
    cases declared <;> rfl

theorem readSymbol_result_ok {o : Members} {key default name : String} :
    (readSymbol o key default).result = .ok name ↔ IsSymbol o key default name := by
  simp only [readSymbol, bind_result_ok, declaredOr_result_ok, pure_result, Except.ok.injEq]
  constructor
  · rintro ⟨name, hdeclared, u, hregister, rfl⟩
    exact ⟨hdeclared, register_result_ok.mp hregister⟩
  · intro h
    exact ⟨name, h.declared, (), register_result_ok.mpr h.valid, rfl⟩

theorem readReference_result_ok {site : Site} {o : Members} {key : String}
    {reference : Option String} :
    (readReference site o key).result = .ok reference ↔ IsReference site o key reference := by
  simp only [readReference, bind_result_ok, Fields.optionalText_result_ok]
  constructor
  · rintro ⟨declared, hkey, hrun⟩
    cases declared with
    | none =>
      obtain ⟨u, -, hnone⟩ := bind_result_ok.mp hrun
      obtain rfl : none = reference := Except.ok.inj hnone
      exact ⟨hkey, fun raw h => by cases h⟩
    | some raw =>
      obtain ⟨u, hfound, hsome⟩ := bind_result_ok.mp hrun
      obtain rfl : some raw = reference := Except.ok.inj hsome
      refine ⟨hkey, ?_⟩
      rintro raw' ⟨⟩
      exact requireFile_result_ok.mp hfound
  · rintro ⟨hkey, hfile⟩
    refine ⟨reference, hkey, ?_⟩
    cases reference with
    | none => rfl
    | some raw => exact bind_result_ok.mpr ⟨(), requireFile_result_ok.mpr (hfile raw rfl), rfl⟩

/-! ## Lists of objects -/

/-- All elements are seen to be objects first; with the second pass this is one pass over objects
with a value for each. -/
theorem elements_asObject_then {key : String} {items : List Json} {f : Nat → Members → Outcome β}
    {parts : List β} :
    (∃ objects, (elements key items fun _ v => asObject v).result = .ok objects ∧
      (elements key objects f).result = .ok parts) ↔
      Placewise (fun k v part => ∃ inner, v = .object inner ∧ (f k inner).result = .ok part)
        items parts := by
  simp only [elements_result_ok, asObject_result_ok]
  constructor
  · rintro ⟨objects, hobjects, hparts⟩
    refine ⟨hobjects.length_eq.trans hparts.length_eq, ?_⟩
    intro k v part hv hpart
    obtain ⟨inner, hinner, hobject⟩ := hobjects.exists_part hv
    exact ⟨inner, hobject, hparts.related k inner part hinner hpart⟩
  · intro h
    have hobject : ∀ (k : Nat) (v : Json), items[k]? = some v →
        ∃ inner, v = Json.object inner := by
      intro k v hv
      obtain ⟨part, -, inner, hinner, -⟩ := h.exists_part hv
      exact ⟨inner, hinner⟩
    obtain ⟨objects, hobjects⟩ := exists_placewise.mpr hobject
    refine ⟨objects, hobjects, hobjects.length_eq.symm.trans h.length_eq, ?_⟩
    intro k inner part hinner hpart
    have hk : k < items.length := by
      have := (List.getElem?_eq_some_iff.mp hinner).1
      rw [hobjects.length_eq]
      exact this
    have hv : items[k]? = some items[k] := List.getElem?_eq_getElem hk
    obtain ⟨inner', hobject', hrun⟩ := h.related k items[k] part hv hpart
    have hsame := hobjects.related k items[k] inner hv hinner
    rw [hobject'] at hsame
    obtain rfl : inner' = inner := by simpa using hsame
    exact hrun

theorem readEntities_result_ok {o : Members} {kind : EntityKind} {f : Nat → Members → Outcome β}
    {IsPart : Nat → Members → β → Prop}
    (h : ∀ index inner part, (f index inner).result = .ok part ↔ IsPart index inner part)
    {parts : List β} :
    (readEntities o kind f).result = .ok parts ↔ IsList o kind.listKey IsPart parts := by
  simp only [readEntities, bind_result_ok, Fields.optionalList_result_ok, IsList]
  constructor
  · rintro ⟨items, ⟨declared, hkey, rfl⟩, hrun⟩
    have hparts := elements_asObject_then.mp hrun
    simp only [h] at hparts
    exact ⟨declared, hkey, hparts⟩
  · rintro ⟨declared, hkey, hparts⟩
    refine ⟨_, ⟨declared, hkey, rfl⟩, elements_asObject_then.mpr ?_⟩
    simp only [h]
    exact hparts

/-! ## Entities -/

theorem readTimer_result_ok {index : Nat} {o : Members} {t : Timer} :
    (readTimer index o).result = .ok t ↔ IsTimer index o t := by
  simp only [readTimer, bind_result_ok, readSymbol_result_ok, Fields.code_result_ok,
    Fields.natural_result_ok, pure_result, Except.ok.injEq]
  constructor
  · rintro ⟨id, hid, clock, hclock, period, hperiod, callback, hcallback, rfl⟩
    exact ⟨hid, hclock, hperiod, hcallback⟩
  · intro h
    exact ⟨t.id, h.id, t.clock, h.clock, t.period, h.period, t.callback, h.callback, rfl⟩

theorem readMessage_result_ok {site : Site} {o : Members} {m : Message} :
    (readMessage site o).result = .ok m ↔ IsMessage site o m := by
  simp only [readMessage, bind_result_ok, Fields.text_result_ok, Fields.code_result_ok,
    readReference_result_ok, pure_result, Except.ok.injEq]
  constructor
  · rintro ⟨name, hname, format, hformat, source, hsource, rfl⟩
    exact ⟨hname, hformat, hsource⟩
  · intro h
    exact ⟨m.name, h.name, m.format, h.format, m.source, h.source, rfl⟩

theorem readEndpoint_result_ok {site : Site} {kind : EndpointKind} {index : Nat} {o : Members}
    {e : Endpoint} :
    (readEndpoint site kind index o).result = .ok e ↔ IsEndpoint site kind index o e := by
  simp only [readEndpoint, bind_result_ok, readSymbol_result_ok, Fields.text_result_ok,
    readMessage_result_ok, pure_result, Except.ok.injEq]
  constructor
  · rintro ⟨id, hid, channel, hchannel, message, hmessage, function, hfunction, rfl⟩
    exact ⟨hid, hchannel, hmessage, hfunction⟩
  · intro h
    exact ⟨e.id, h.id, e.channel, h.channel, e.message, h.message, e.function, h.function, rfl⟩

theorem readTimers_result_ok {o : Members} {ts : List Timer} :
    (readEntities o .timer readTimer).result = .ok ts ↔ IsList o "timers" IsTimer ts :=
  readEntities_result_ok fun _ _ _ => readTimer_result_ok

theorem readEndpoints_result_ok {site : Site} {o : Members} {kind : EndpointKind}
    {es : List Endpoint} :
    (readEndpoints site o kind).result = .ok es ↔
      IsList o (EntityKind.endpoint kind).listKey (IsEndpoint site kind) es :=
  readEntities_result_ok fun _ _ _ => readEndpoint_result_ok

/-! ## Nodes -/

theorem refuseItems_result_ok {o : Members} {key feature : String} :
    (refuseItems o key feature).result = .ok () ↔ IsUnused o key := by
  simp only [refuseItems, bind_result_ok, Fields.optionalList_result_ok, IsUnused]
  constructor
  · rintro ⟨items, ⟨declared, hkey, rfl⟩, hrun⟩
    cases declared with
    | none => exact .inl hkey
    | some items =>
      cases items with
      | nil => exact .inr hkey
      | cons v rest => cases hrun
  · rintro (hkey | hkey)
    · exact ⟨[], ⟨none, hkey, rfl⟩, rfl⟩
    · exact ⟨[], ⟨some [], hkey, rfl⟩, rfl⟩

theorem readClassname_result_ok {o : Members} {name : String} :
    (readClassname o).result = .ok name ↔
      present? o "classname" = some (.string name) ∧ Identifier.isValid name = true := by
  simp only [readClassname, bind_result_ok, Fields.text_result_ok, pure_result, Except.ok.injEq]
  constructor
  · rintro ⟨name, hname, u, hregister, rfl⟩
    exact ⟨hname, register_result_ok.mp hregister⟩
  · rintro ⟨hname, hvalid⟩
    exact ⟨name, hname, (), register_result_ok.mpr hvalid, rfl⟩

theorem readNode_result_ok {site : Site} {v : Json} {n : Node} :
    (readNode site v).result = .ok n ↔ ∃ o, v = .object o ∧ IsNode site o n := by
  simp only [readNode, bind_result_ok, asObject_result_ok, readClassname_result_ok,
    readReference_result_ok, readTimers_result_ok, readEndpoints_result_ok, pure_result,
    Except.ok.injEq]
  constructor
  · rintro ⟨o, ho, classname, ⟨hclass, hvalid⟩, qosConfig, hqos, timers, htimers, topicPubs, hpubs,
      topicSubs, hsubs, serviceServers, hservers, serviceClients, hclients, u, hactions, u',
      hactions', rfl⟩
    exact ⟨o, ho, hclass, hvalid, hqos, htimers, hpubs, hsubs, hservers, hclients,
      refuseItems_result_ok.mp hactions, refuseItems_result_ok.mp hactions'⟩
  · rintro ⟨o, ho, h⟩
    exact ⟨o, ho, n.classname, ⟨h.classname, h.valid⟩, n.qosConfig, h.qosConfig, n.timers, h.timers,
      n.topicPubs, h.topicPubs, n.topicSubs, h.topicSubs, n.serviceServers, h.serviceServers,
      n.serviceClients, h.serviceClients, (), refuseItems_result_ok.mpr h.actionServers, (),
      refuseItems_result_ok.mpr h.actionClients, rfl⟩

/-! ## Apps -/

theorem readNamespace_result_ok {o : Members} {name : String} :
    (readNamespace o).result = .ok name ↔
      present? o "namespace" = some (.string name) ∧ Identifier.isValid name = true := by
  simp only [readNamespace, bind_result_ok, Fields.text_result_ok]
  constructor
  · rintro ⟨declared, hname, hrun⟩
    by_cases hvalid : Identifier.isValid declared = true
    · obtain rfl : declared = name := by simpa [hvalid] using hrun
      exact ⟨hname, hvalid⟩
    · simp [hvalid] at hrun
  · rintro ⟨hname, hvalid⟩
    exact ⟨name, hname, by simp [hvalid]⟩

theorem readDomain_result_ok {o : Members} {id : UInt32} :
    (readDomain o).result = .ok id ↔ ∃ declared : Option UInt32,
      present? o "domain_id" = declared.map (fun w => .int w.toNat) ∧ id = declared.getD 0 := by
  simp only [readDomain, bind_result_ok, Fields.optionalNatural32_result_ok]
  constructor
  · rintro ⟨declared, hkey, hid⟩
    refine ⟨declared, hkey, ?_⟩
    cases declared with
    | none =>
      obtain ⟨u, -, hid⟩ := bind_result_ok.mp hid
      exact (Except.ok.inj hid).symm
    | some w => exact (Except.ok.inj hid).symm
  · rintro ⟨declared, hkey, rfl⟩
    refine ⟨declared, hkey, ?_⟩
    cases declared <;> rfl

theorem readModule_result_ok {v : Json} {m : Module} :
    (readModule v).result = .ok m ↔ ∃ o, v = .object o ∧ m = .placeholder := by
  simp only [readModule, bind_result_ok, asObject_result_ok, note_result, pure_result,
    Except.ok.injEq]
  constructor
  · rintro ⟨o, ho, u, -, rfl⟩
    exact ⟨o, ho, rfl⟩
  · rintro ⟨o, ho, rfl⟩
    exact ⟨o, ho, (), trivial, rfl⟩

/-- A run for each element of an optional list of objects. -/
theorem optionalList_elements_result_ok {o : Members} {key : String} {f : Nat → Json → Outcome β}
    {IsPart : Nat → Members → β → Prop}
    (h : ∀ k v part, (f k v).result = .ok part ↔ ∃ inner, v = .object inner ∧ IsPart k inner part)
    {parts : List β} :
    (Fields.optionalList o key >>= fun items => elements key items f).result = .ok parts ↔
      IsList o key IsPart parts := by
  simp only [bind_result_ok, Fields.optionalList_result_ok, elements_result_ok, h, IsList]
  constructor
  · rintro ⟨items, ⟨declared, hkey, rfl⟩, hparts⟩
    exact ⟨declared, hkey, hparts⟩
  · rintro ⟨declared, hkey, hparts⟩
    exact ⟨_, ⟨declared, hkey, rfl⟩, hparts⟩

/-- A run for each element of a list of objects that has to be there. -/
theorem list_elements_result_ok {o : Members} {key : String} {f : Nat → Json → Outcome β}
    {IsPart : Nat → Members → β → Prop}
    (h : ∀ k v part, (f k v).result = .ok part ↔ ∃ inner, v = .object inner ∧ IsPart k inner part)
    {parts : List β} :
    (Fields.list o key >>= fun items => elements key items f).result = .ok parts ↔
      present? o key ≠ none ∧ IsList o key IsPart parts := by
  simp only [bind_result_ok, Fields.list_result_ok, elements_result_ok, h, IsList]
  constructor
  · rintro ⟨items, hkey, hparts⟩
    exact ⟨by simp [hkey], some items, hkey, hparts⟩
  · rintro ⟨hthere, declared, hkey, hparts⟩
    cases declared with
    | none => exact absurd hkey hthere
    | some items => exact ⟨items, hkey, hparts⟩

theorem readNodes_result_ok {site : Site} {o : Members} {nodes : List Node} :
    (readNodes site o).result = .ok nodes ↔
      present? o "nodes" ≠ none ∧ IsList o "nodes" (fun _ => IsNode site) nodes :=
  list_elements_result_ok fun _ _ _ => readNode_result_ok

theorem readModules_result_ok {o : Members} {modules : List Module} :
    (readModules o).result = .ok modules ↔
      IsList o "modules" (fun _ _ m => m = .placeholder) modules :=
  optionalList_elements_result_ok fun _ _ _ => readModule_result_ok

theorem readApp_result_ok {site : Site} {v : Json} {a : App} :
    (readApp site v).result = .ok a ↔ ∃ o, v = .object o ∧ IsApp site o a := by
  simp only [readApp, bind_result_ok, asObject_result_ok, readNamespace_result_ok,
    readDomain_result_ok, Fields.code_result_ok, readReference_result_ok]
  constructor
  · rintro ⟨o, ho, name, ⟨hname, hvalid⟩, domainId, hdomain, protocol, hprotocol, schedulerConfig,
      hscheduler, ⟨nodes, journal⟩, hlisten, hrest⟩
    obtain ⟨hnodes, rfl⟩ := listen_result_ok.mp hlisten
    simp only [readModules_result_ok, ofExcept_result, log_result, pure_result,
      Except.ok.injEq] at hrest
    obtain ⟨modules, hmodules, u, hcheck, u', -, rfl⟩ := hrest
    have hnames := registers_readNodes site o nodes hnodes
    obtain ⟨hthere, hlist⟩ := readNodes_result_ok.mp hnodes
    have hdistinct := Registry.check_eq_ok.mp hcheck
    rw [hnames] at hdistinct
    exact ⟨o, ho, hname, hvalid, hdomain, hprotocol, hscheduler, hthere, hlist, hmodules, hnames,
      hdistinct⟩
  · rintro ⟨o, ho, h⟩
    have hnodes := readNodes_result_ok.mpr ⟨h.required, h.nodes⟩
    have hnames := registers_readNodes site o a.nodes hnodes
    have hcheck : (Registry.mk (readNodes site o).journal.registered).check .root = .ok () :=
      Registry.check_eq_ok.mpr (by rw [hnames]; exact h.distinct)
    refine ⟨o, ho, a.name, ⟨h.name, h.valid⟩, a.domainId, h.domainId, a.protocol, h.protocol,
      a.schedulerConfig, h.schedulerConfig, (a.nodes, (readNodes site o).journal),
      listen_result_ok.mpr ⟨hnodes, rfl⟩, ?_⟩
    simp only [readModules_result_ok, ofExcept_result, log_result, pure_result,
      Except.ok.injEq]
    refine ⟨a.modules, h.modules, (), hcheck, (), trivial, ?_⟩
    have hidentifiers : (readNodes site o).journal.registered = a.identifiers :=
      hnames.trans h.identifiers.symm
    rw [hidentifiers]

/-! ## Documents -/

theorem readVersion_result_ok {o : Members} {version : Version} :
    (readVersion o).result = .ok version ↔ ∃ text,
      present? o "wolfes_version" = some (.string text) ∧ version.IsWritten text := by
  simp only [readVersion, bind_result_ok, Fields.text_result_ok, under_result_ok,
    Version.ofText_result_ok]

theorem readApps_result_ok {site : Site} {o : Members} {apps : List App} :
    (readApps site o).result = .ok apps ↔
      present? o "apps" ≠ none ∧ IsList o "apps" (fun _ => IsApp site) apps :=
  list_elements_result_ok fun _ _ _ => readApp_result_ok

/-- The version is read from its key alone. -/
theorem readVersion_congr {o o' : Members}
    (h : present? o' "wolfes_version" = present? o "wolfes_version") :
    readVersion o' = readVersion o := by
  rw [readVersion, readVersion, Fields.text_congr h]

theorem readApps_congr {site : Site} {o o' : Members} (h : present? o' "apps" = present? o "apps") :
    readApps site o' = readApps site o := by
  rw [readApps, readApps, Fields.list_congr h]

/-- Reading a document ends with a plan exactly when the document describes the plan. -/
theorem readDocument_result_ok {site : Site} {v : Json} {p : Plan} :
    (readDocument site v).result = .ok p ↔ Describes site v p := by
  simp only [readDocument, bind_result_ok, asObject_result_ok, readVersion_result_ok,
    Fields.code_result_ok, readApps_result_ok, log_result, pure_result, Except.ok.injEq]
  constructor
  · rintro ⟨o, ho, version, hversion, platform, hplatform, language, hlanguage, apps,
      ⟨hthere, happs⟩, u, -, rfl⟩
    exact ⟨o, ho, hversion, hplatform, hlanguage, hthere, happs, rfl⟩
  · rintro ⟨o, ho, h⟩
    refine ⟨o, ho, p.version, h.version, p.platform, h.platform, p.language, h.language, p.apps,
      ⟨h.required, h.apps⟩, (), trivial, ?_⟩
    rw [← h.customMessages]

/-! ## A small document

One app with one node: a timer that declares its id and nothing else that it may leave out, and a
publisher that does the reverse. -/

def smallSite : Site := ⟨some ⟨"/home/user"⟩, none, fun path => path.text = "/home/user/msgs.hpp"⟩

def smallTimer : Members := [("identifier", .string "tick"), ("type", .int 1), ("period", .int 50)]

def smallPublisher : Members :=
  [("topic_name", .string "/odom"), ("message", .string "Odometry"), ("msg_type", .int 4),
   ("msg_src", .string "~/msgs.hpp"), ("pub_function", .string "publishOdom")]

def smallNode : Members :=
  [("classname", .string "Drive"), ("timers", .list [.object smallTimer]),
   ("topic_pubs", .list [.object smallPublisher]), ("topic_subs", .null)]

def smallApp : Members :=
  [("namespace", .string "robot"), ("protocol_type", .int 2), ("nodes", .list [.object smallNode]),
   ("modules", .list [.object []])]

def smallDocument : Json :=
  .object [("wolfes_version", .string "1.0.0"), ("platform", .int 0), ("lang", .int 2),
    ("apps", .list [.object smallApp])]

theorem exists_smallPlan : ∃ plan, (readDocument smallSite smallDocument).result = .ok plan :=
  ⟨_, rfl⟩

end AppConfig.Document

import AppConfig.Proofs.Document.Collisions
import AppConfig.Proofs.Document.Diagnostics
import AppConfig.Proofs.Document.Faults
import AppConfig.Proofs.Document.Unseen
import AppConfig.Proofs.Location.Display

/-! # Printed places

* `SchemaPlace`: the location of an object that is read, or of a field that is read in it.
* `schemaPlace_of_isTold`, `names_readDocument`: no diagnostic and no fault names another place. One
  lemma for each reader, relative to the part that the reader is given.
* `SchemaPlace.isPlain`: the keys of such a place are made of the characters of symbols.
* `printed_of_isReported`: what is reported of a document is told from its text.
-/

namespace AppConfig.Document
set_option autoImplicit false
open Outcome
open Fields (FailsAt)

variable {α β : Type} {site : Site} {level : Level} {o : Members} {key : String}

/-! ## Places of the schema -/

/-- The location is that of an object that is read, or of a field that is read in it. -/
inductive SchemaPlace : Level → Location → Prop
  | here (level : Level) : SchemaPlace level []
  | field {level : Level} {key : String} (known : key ∈ knownKeys level) :
    SchemaPlace level [.field key]
  | inside {a b : Level} {s : Segment} {l : Location} (first : Step a s b)
    (rest : SchemaPlace b l) : SchemaPlace a (s :: l)

theorem SchemaPlace.along {a b : Level} {path l : Location} (hpath : Reaches a path b)
    (h : SchemaPlace b l) : SchemaPlace a (path ++ l) := by
  induction hpath with
  | here level => exact h
  | step first _ ih => exact .inside first (ih h)

theorem isPart_of_knownKeys (hkey : key ∈ knownKeys level) :
    ∀ c ∈ key.toList, Identifier.isPart c = true := by
  have hall : (knownKeys level).all (fun key => key.toList.all Identifier.isPart) = true := by
    cases level with
    | entity kind =>
      cases kind with
      | timer => decide +kernel
      | endpoint kind => cases kind <;> decide +kernel
    | _ => decide +kernel
  exact List.all_eq_true.mp (List.all_eq_true.mp hall key hkey)

/-- The lists of an object are fields of it. -/
theorem mem_knownKeys_of_partLists : ∀ p ∈ partLists level, p.1 ∈ knownKeys level := by
  cases level with
  | module | entity _ => exact fun p hp => by cases hp
  | _ => decide

theorem Step.isPlain {a b : Level} {s : Segment} (h : Step a s b) : s.IsPlain := by
  obtain ⟨key, k, hkey, rfl⟩ := step_iff.mp h
  exact isPart_of_knownKeys (mem_knownKeys_of_partLists _ hkey)

theorem SchemaPlace.isPlain {l : Location} (h : SchemaPlace level l) : ∀ s ∈ l, s.IsPlain := by
  induction h with
  | here level => simp
  | field hkey =>
    intro s hs
    obtain rfl := List.mem_singleton.mp hs
    exact isPart_of_knownKeys hkey
  | inside first _ ih => exact List.forall_mem_cons.mpr ⟨first.isPlain, ih⟩

/-! ## Diagnostics -/

theorem IsAbsent.schemaPlace {keys : List String} {l : Location} (h : IsAbsent o keys l)
    (hkeys : ∀ key ∈ keys, key ∈ knownKeys level) : SchemaPlace level l := by
  obtain ⟨key, hkey, rfl, -⟩ := h
  exact .field (hkeys key hkey)

theorem defaultedKeys_known : ∀ key ∈ defaultedKeys level, key ∈ knownKeys level := by
  cases level with
  | entity kind => cases kind <;> simp [defaultedKeys, knownKeys, EntityKind.functionKey]
  | _ => decide

theorem omittedKeys_known : ∀ key ∈ omittedKeys level, key ∈ knownKeys level := by
  cases level with
  | entity kind => cases kind <;> simp [omittedKeys, knownKeys]
  | _ => decide

theorem schemaPlace_of_tells {l : Location} {code : DiagnosticCode} (h : Tells level o l code) :
    SchemaPlace level l := by
  cases code with
  | fieldDefaulted => exact h.schemaPlace defaultedKeys_known
  | fieldOmitted => exact h.schemaPlace omittedKeys_known
  | notYetImplemented =>
    obtain ⟨-, rfl⟩ := h
    exact .here level
  | versionGroupsDiscarded =>
    obtain ⟨rfl, rfl, -⟩ := h
    exact .field (by decide)
  | homeExpanded => exact h.elim

theorem schemaPlace_of_isTold {doc : Json} {l : Location} {code : DiagnosticCode}
    (h : IsTold doc l code) : SchemaPlace .root l := by
  obtain ⟨path, level, o, rest, rfl, hpath, -, htells⟩ := h
  exact (schemaPlace_of_tells htells).along hpath

theorem schemaPlace_of_mem {doc : Json} {d : Diagnostic}
    (h : d ∈ (readDocument site doc).journal.diagnostics) : SchemaPlace .root d.location := by
  have hleaves : Leaves (objectNotes rootNotes doc) (readDocument site doc) :=
    leaves_readDocument doc
  obtain ⟨o, rfl, hmem⟩ := mem_objectNotes.mp (hleaves.begins.subset h)
  exact schemaPlace_of_isTold (isTold_of_mem hmem)

/-! ## Faults -/

/-- The fault is one of a place of the schema, if of any. -/
def Names (level : Level) (fault : Fault) : Prop :=
  ∀ l, fault.location? = some l → SchemaPlace level l

theorem names_at {x : Outcome α} (h : FailsAt key x) (hkey : key ∈ knownKeys level) :
    FaultsIn (Names level) x := by
  intro fault hfault l hl
  obtain rfl : [Segment.field key] = l := Option.some.inj ((h fault hfault).symm.trans hl)
  exact .field hkey

theorem Names.under {a b : Level} {s : Segment} {fault : Fault} (hs : Step a s b)
    (h : Names b fault) : Names a (fault.under s) := by
  intro l hl
  rw [Fault.under, Fault.location?_relocate, Option.map_eq_some_iff] at hl
  obtain ⟨l, hl, rfl⟩ := hl
  exact .inside hs (h l hl)

theorem names_asObject (v : Json) : FaultsIn (Names level) (asObject v) := by
  cases v with
  | object o => exact .pure o
  | _ =>
    refine .fail fun l hl => ?_
    obtain rfl : [] = l := Option.some.inj hl
    exact .here level

theorem names_elements {below : Level} {f : Nat → α → Outcome β} {items : List α}
    (hstep : ∀ k, Step level (.element key k) below)
    (h : ∀ k a, FaultsIn (Names below) (f k a)) :
    FaultsIn (Names level) (elements key items f) :=
  .elements fun k a _ fault hfault => (h k a fault hfault).under (hstep k)

/-- The elements of a list that has to be there. -/
theorem names_list_elements {below : Level} {f : Nat → Json → Outcome α}
    (hkey : key ∈ knownKeys level) (hstep : ∀ k, Step level (.element key k) below)
    (h : ∀ k v, FaultsIn (Names below) (f k v)) :
    FaultsIn (Names level) (Fields.list o key >>= fun items => elements key items f) :=
  .bind (names_at Fields.failsAt_list hkey) fun _ _ => names_elements hstep h

/-! ## Names and references -/

theorem failsAt_register {name : String} : FailsAt key (register key name) := by
  unfold register
  split
  · exact .log _
  · exact .fail rfl

theorem failsAt_readSymbol {default : String} : FailsAt key (readSymbol o key default) := by
  have hdeclared : FailsAt key (declaredOr o key default) := by
    refine .bind Fields.failsAt_optionalText fun declared _ => ?_
    cases declared with
    | some name => exact .pure name
    | none => exact .bind (.note _) fun _ _ => .pure default
  refine .bind hdeclared fun name _ => ?_
  exact .bind failsAt_register fun _ _ => .pure name

theorem names_readReference (hkey : key ∈ knownKeys level) :
    FaultsIn (Names level) (readReference site o key) := by
  intro fault hfault l hl
  rw [location_of_readReference fault hfault l hl]
  exact .field hkey

/-! ## Entities -/

theorem names_readTimer (index : Nat) (o : Members) :
    FaultsIn (Names (.entity .timer)) (readTimer index o) := by
  refine .bind (names_at failsAt_readSymbol (by decide)) fun id _ => ?_
  refine .bind (names_at (Fields.failsAt_code TimerClock) (by decide)) fun clock _ => ?_
  refine .bind (names_at Fields.failsAt_natural (by decide)) fun period _ => ?_
  refine .bind (names_at failsAt_readSymbol (by decide)) fun callback _ => ?_
  exact .pure _

section Endpoints
variable {kind : EndpointKind}

theorem names_readMessage (o : Members) :
    FaultsIn (Names (.entity (.endpoint kind))) (readMessage site o) := by
  refine .bind (names_at Fields.failsAt_text (by simp [knownKeys])) fun name _ => ?_
  refine .bind (names_at (Fields.failsAt_code MessageFormat) (by simp [knownKeys]))
    fun format _ => ?_
  refine .bind (names_readReference (by simp [knownKeys])) fun source _ => ?_
  exact .pure _

theorem names_readEndpoint (index : Nat) (o : Members) :
    FaultsIn (Names (.entity (.endpoint kind))) (readEndpoint site kind index o) := by
  refine .bind (names_at failsAt_readSymbol (by simp [knownKeys])) fun id _ => ?_
  refine .bind (names_at Fields.failsAt_text (by simp [knownKeys])) fun channel _ => ?_
  refine .bind (names_readMessage o) fun message _ => ?_
  refine .bind (names_at failsAt_readSymbol (by simp [knownKeys])) fun function _ => ?_
  exact .pure _

end Endpoints

theorem names_readEntities {kind : EntityKind} {f : Nat → Members → Outcome α}
    (h : ∀ k inner, FaultsIn (Names (.entity kind)) (f k inner)) :
    FaultsIn (Names .node) (readEntities o kind f) := by
  have hlist : kind.listKey ∈ knownKeys .node :=
    mem_knownKeys_of_partLists (kind.listKey, .entity kind) (List.mem_map_of_mem kind.mem_all)
  have hstep : ∀ k, Step .node (.element kind.listKey k) (.entity kind) := Step.entity kind
  refine .bind (names_at Fields.failsAt_optionalList hlist) fun items _ => ?_
  refine .bind (names_elements hstep fun _ => names_asObject) fun objects _ => ?_
  exact names_elements hstep h

/-! ## Nodes, modules and apps -/

theorem failsAt_refuseItems {feature : String} : FailsAt key (refuseItems o key feature) := by
  refine .bind Fields.failsAt_optionalList fun items _ => ?_
  cases items with
  | nil => exact .pure ()
  | cons v rest => exact .fail rfl

theorem failsAt_readClassname : FailsAt "classname" (readClassname o) := by
  refine .bind Fields.failsAt_text fun name _ => ?_
  exact .bind failsAt_register fun _ _ => .pure name

theorem names_readNode (v : Json) : FaultsIn (Names .node) (readNode site v) := by
  have hendpoints : ∀ o (kind : EndpointKind), FaultsIn (Names .node) (readEndpoints site o kind) :=
    fun o kind => names_readEntities names_readEndpoint
  refine .bind (names_asObject v) fun o _ => ?_
  refine .bind (names_at failsAt_readClassname (by decide)) fun classname _ => ?_
  refine .bind (names_readReference (by decide)) fun qosConfig _ => ?_
  refine .bind (names_readEntities names_readTimer) fun timers _ => ?_
  refine .bind (hendpoints o .topicPub) fun topicPubs _ => ?_
  refine .bind (hendpoints o .topicSub) fun topicSubs _ => ?_
  refine .bind (hendpoints o .serviceServer) fun serviceServers _ => ?_
  refine .bind (hendpoints o .serviceClient) fun serviceClients _ => ?_
  refine .bind (names_at failsAt_refuseItems (by decide)) fun _ _ => ?_
  refine .bind (names_at failsAt_refuseItems (by decide)) fun _ _ => ?_
  exact .pure _

theorem names_readModule (v : Json) : FaultsIn (Names .module) (readModule v) := by
  refine .bind (names_asObject v) fun o _ => ?_
  exact .bind (.note _) fun _ _ => .pure _

theorem names_check (r : Registry) : FaultsIn (Names .app) (.ofExcept (r.check .root)) := by
  intro fault hfault l hl
  obtain ⟨-, rfl⟩ := Registry.check_eq_error.mp hfault
  obtain rfl : Location.root = l := Option.some.inj hl
  exact .here .app

theorem names_readNodes (o : Members) : FaultsIn (Names .app) (readNodes site o) :=
  names_list_elements (by decide) Step.node fun _ => names_readNode

theorem names_readModules (o : Members) : FaultsIn (Names .app) (readModules o) :=
  .bind (names_at Fields.failsAt_optionalList (by decide)) fun _ _ =>
    names_elements Step.module fun _ => names_readModule

theorem names_readApp (v : Json) : FaultsIn (Names .app) (readApp site v) := by
  refine .bind (names_asObject v) fun o _ => ?_
  refine .bind (names_at failsAt_readNamespace (by decide)) fun name _ => ?_
  refine .bind (names_at failsAt_readDomain (by decide)) fun domainId _ => ?_
  refine .bind (names_at (Fields.failsAt_code Protocol) (by decide)) fun protocol _ => ?_
  refine .bind (names_readReference (by decide)) fun schedulerConfig _ => ?_
  refine .bind (.listen (names_readNodes o)) fun nodes _ => ?_
  refine .bind (names_readModules o) fun modules _ => ?_
  refine .bind (names_check _) fun _ _ => ?_
  refine .bind (.log _) fun _ _ => ?_
  exact .pure _

/-! ## Documents -/

/-- No place is given for a version that is refused. -/
theorem names_readVersion (o : Members) : FaultsIn (Names .root) (readVersion o) := by
  refine .bind (names_at Fields.failsAt_text (by decide)) fun text _ fault hfault l hl => ?_
  obtain ⟨inner, hinner, rfl⟩ := under_result_error.mp hfault
  obtain ⟨-, rfl⟩ := Version.ofText_result_error.mp hinner
  cases hl

theorem names_readApps (o : Members) : FaultsIn (Names .root) (readApps site o) :=
  names_list_elements (by decide) Step.app fun _ => names_readApp

theorem names_readDocument (v : Json) : FaultsIn (Names .root) (readDocument site v) := by
  refine .bind (names_asObject v) fun o _ => ?_
  refine .bind (names_readVersion o) fun version _ => ?_
  refine .bind (names_at (Fields.failsAt_code Platform) (by decide)) fun platform _ => ?_
  refine .bind (names_at (Fields.failsAt_code Language) (by decide)) fun language _ => ?_
  refine .bind (names_readApps o) fun apps _ => ?_
  exact .bind (.log _) fun _ _ => .pure _

/-! ## Reported places -/

/-- On some machine, reading the document leaves a diagnostic or ends with a fault at the place. -/
def IsReported (doc : Json) (l : Location) : Prop :=
  ∃ site, (∃ d ∈ (readDocument site doc).journal.diagnostics, d.location = l) ∨
    ∃ fault, (readDocument site doc).result = .error fault ∧ fault.location? = some l

theorem IsReported.schemaPlace {doc : Json} {l : Location} (h : IsReported doc l) :
    SchemaPlace .root l := by
  obtain ⟨site, ⟨d, hd, rfl⟩ | ⟨fault, hfault, hl⟩⟩ := h
  · exact schemaPlace_of_mem hd
  · exact names_readDocument doc fault hfault l hl

theorem IsReported.ofDisplay_eq {doc : Json} {l : Location} (h : IsReported doc l) :
    Location.ofDisplay l.display = l :=
  Location.ofDisplay_display h.schemaPlace.isPlain

/-- Places that are reported, be it of two documents, are printed alike only if they are the same.
The app, the node and the field of a place are told from its text. -/
theorem printed_of_isReported {doc : Json} {l : Location} (h : IsReported doc l) :
    (∀ doc' l', IsReported doc' l' → l.display = l'.display → l = l') ∧
    (Location.ofDisplay l.display).appIndex = l.appIndex ∧
    (Location.ofDisplay l.display).nodeIndex = l.nodeIndex ∧
    (Location.ofDisplay l.display).fieldName = l.fieldName := by
  refine ⟨fun doc' l' h' htext => ?_, ?_⟩
  · rw [← h.ofDisplay_eq, htext, h'.ofDisplay_eq]
  · rw [h.ofDisplay_eq]
    exact ⟨rfl, rfl, rfl⟩

/-- Where the small document names a file that a machine without files does not have. -/
def sourcePlace : Location :=
  [.element "apps" 0, .element "nodes" 0, .element "topic_pubs" 0, .field "msg_src"]

theorem printed_sourcePlace :
    IsReported smallDocument sourcePlace ∧
    sourcePlace.display = "apps[0].nodes[0].topic_pubs[0].msg_src" ∧
    (Location.ofDisplay sourcePlace.display).appIndex = some 0 ∧
    (Location.ofDisplay sourcePlace.display).nodeIndex = some 0 ∧
    (Location.ofDisplay sourcePlace.display).fieldName = some "msg_src" := by
  have hreported : IsReported smallDocument sourcePlace :=
    ⟨emptySite, .inr ⟨sourceNotFound, rfl, rfl⟩⟩
  exact ⟨hreported, rfl, (printed_of_isReported hreported).2⟩

end AppConfig.Document

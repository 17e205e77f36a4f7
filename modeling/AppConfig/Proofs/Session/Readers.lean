import AppConfig.Proofs.Document.Registered
import AppConfig.Proofs.Session.Records

/-! # Documents on the diagnostics of a caller

The readers that record in the diagnostics of a caller and register names in the registry of an app
do what the readers with a journal do.

* `recordsNames_readNode`: a node, on the diagnostics and the names so far.
* `records_readApp`: an app, whose names are all those of its nodes.
* `records_readDocument`: a document.
-/

namespace AppConfig
set_option autoImplicit false

variable {site : Site} {here : Location} {o : Members} {key default : String} {α : Type}

/-! ## Names and references -/

theorem records_declaredOr :
    Records here (Document.declaredOr o key default) (Recording.declaredOr here o key default) := by
  refine (Records.fieldAt (Fields.optionalText_journal o key)).bind fun declared => ?_
  cases declared with
  | none => exact Records.note.bind fun _ => .pure default
  | some name => exact .pure name

theorem records_requireFile {raw : String} : Records here (Document.requireFile site key raw)
    (Recording.requireFile site here key raw) := by
  refine (Records.requireHome ⟨raw⟩ site.home).bind fun _ => ?_
  dsimp only
  split
  · exact .fail _
  · exact .pure ()

theorem records_readReference : Records here (Document.readReference site o key)
    (Recording.readReference site here o key) := by
  refine (Records.fieldAt (Fields.optionalText_journal o key)).bind fun declared => ?_
  cases declared with
  | none => exact Records.note.bind fun _ => .pure none
  | some raw => exact records_requireFile.bind fun _ => .pure (some raw)

theorem recordsNames_register {name : String} :
    RecordsNames here (Document.register key name) (Registering.register here key name) := by
  intro registry
  unfold Document.register Registering.register Registry.register
  by_cases h : Identifier.isValid name = true
  · simp only [h, if_true]
    exact .ofExcept ((Outcome.within_result_ok here).mpr rfl) rfl
  · simp only [h]
    exact .fail (.invalidIdentifier [.field key] name)

theorem recordsNames_readSymbol : RecordsNames here (Document.readSymbol o key default)
    (Registering.readSymbol here o key default) := by
  have hname : RecordsNames here (Document.declaredOr o key default)
      (liftM (Recording.declaredOr here o key default)) :=
    .lift records_declaredOr (Document.declaredOr_registered o key default)
  refine hname.bind fun name => ?_
  exact recordsNames_register.bind fun _ => .pure name

/-! ## Entities -/

theorem recordsNames_readTimer {index : Nat} :
    RecordsNames here (Document.readTimer index o) (Registering.readTimer here index o) := by
  refine recordsNames_readSymbol.bind fun id => ?_
  refine (RecordsNames.fieldAt (Fields.code_journal o "type")).bind fun clock => ?_
  refine (RecordsNames.fieldAt (Fields.natural_journal o "period")).bind fun period => ?_
  exact recordsNames_readSymbol.bind fun callback => .pure _

theorem records_readMessage :
    Records here (Document.readMessage site o) (Recording.readMessage site here o) := by
  refine (Records.fieldAt (Fields.text_journal o "message")).bind fun name => ?_
  refine (Records.fieldAt (Fields.code_journal o "msg_type")).bind fun format => ?_
  exact records_readReference.bind fun source => .pure _

theorem recordsNames_readEndpoint {kind : EndpointKind} {index : Nat} :
    RecordsNames here (Document.readEndpoint site kind index o)
      (Registering.readEndpoint site kind here index o) := by
  have hmessage : RecordsNames here (Document.readMessage site o)
      (liftM (Recording.readMessage site here o)) :=
    .lift records_readMessage (Document.readMessage_registered site o)
  refine recordsNames_readSymbol.bind fun id => ?_
  refine (RecordsNames.fieldAt (Fields.text_journal o kind.channelKey)).bind fun channel => ?_
  refine hmessage.bind fun message => ?_
  exact recordsNames_readSymbol.bind fun function => .pure _

theorem recordsNames_readEntities {kind : EntityKind} {f : Nat → Members → Outcome α}
    {g : Location → Nat → Members → Registering α}
    (h : ∀ there i o, RecordsNames there (f i o) (g there i o)) :
    RecordsNames here (Document.readEntities o kind f) (Registering.readEntities here o kind g) := by
  refine (RecordsNames.fieldAt (Fields.optionalList_journal o kind.listKey)).bind fun items => ?_
  refine (RecordsNames.simulation.elements (fun _ v => ?_) items).bind fun objects => ?_
  · exact .fieldAt (asObject_journal v)
  · exact RecordsNames.simulation.elements (fun i o => h _ i o) objects

/-! ## Nodes -/

theorem recordsNames_readClassname :
    RecordsNames here (Document.readClassname o) (Registering.readClassname here o) := by
  refine (RecordsNames.fieldAt (Fields.text_journal o "classname")).bind fun name => ?_
  exact recordsNames_register.bind fun _ => .pure name

theorem refuseItems_journal (o : Members) (key feature : String) :
    (Document.refuseItems o key feature).journal = [] := by
  apply Outcome.bind_journal_nil (Fields.optionalList_journal o key)
  intro items
  cases items <;> rfl

theorem recordsNames_readNode {v : Json} :
    RecordsNames here (Document.readNode site v) (Registering.readNode site here v) := by
  refine (RecordsNames.fieldAt (asObject_journal v)).bind fun o => ?_
  have hqosConfig : RecordsNames here (Document.readReference site o "qos_config")
      (liftM (Recording.readReference site here o "qos_config")) :=
    .lift records_readReference (Document.readReference_registered site o "qos_config")
  have htimers : RecordsNames here (Document.readEntities o .timer Document.readTimer)
      (Registering.readEntities here o .timer Registering.readTimer) :=
    recordsNames_readEntities fun _ _ _ => recordsNames_readTimer
  have hendpoints : ∀ kind : EndpointKind, RecordsNames here (Document.readEndpoints site o kind)
      (Registering.readEndpoints site here o kind) :=
    fun kind => recordsNames_readEntities fun _ _ _ => recordsNames_readEndpoint
  refine recordsNames_readClassname.bind fun classname => ?_
  refine hqosConfig.bind fun qosConfig => ?_
  refine htimers.bind fun timers => ?_
  refine (hendpoints .topicPub).bind fun topicPubs => ?_
  refine (hendpoints .topicSub).bind fun topicSubs => ?_
  refine (hendpoints .serviceServer).bind fun serviceServers => ?_
  refine (hendpoints .serviceClient).bind fun serviceClients => ?_
  refine (RecordsNames.fieldAt (refuseItems_journal o _ _)).bind fun _ => ?_
  exact (RecordsNames.fieldAt (refuseItems_journal o _ _)).bind fun _ => .pure _

theorem recordsNames_readNodes :
    RecordsNames here (Document.readNodes site o) (Registering.readNodes site here o) := by
  refine (RecordsNames.fieldAt (Fields.list_journal o "nodes")).bind fun items => ?_
  exact RecordsNames.simulation.elements (fun _ _ => recordsNames_readNode) items

/-! ## Apps -/

theorem readNamespace_journal (o : Members) : (Document.readNamespace o).journal = [] := by
  apply Outcome.bind_journal_nil (Fields.text_journal o "namespace")
  intro name
  split <;> rfl

theorem records_readModule {v : Json} :
    Records here (Document.readModule v) (Recording.readModule here v) := by
  refine (Records.fieldAt (asObject_journal v)).bind fun _ => ?_
  exact (Records.note_root rfl).bind fun _ => .pure _

theorem records_readModules :
    Records here (Document.readModules o) (Recording.readModules here o) := by
  refine (Records.fieldAt (Fields.optionalList_journal o "modules")).bind fun items => ?_
  exact Records.simulation.elements (fun _ _ => records_readModule) items

theorem records_readDomain : Records here (Document.readDomain o) (Recording.readDomain here o) := by
  refine (Records.fieldAt (Fields.optionalNatural32_journal o "domain_id")).bind fun id => ?_
  cases id with
  | none => exact Records.note.bind fun _ => .pure 0
  | some id => exact .pure id

theorem records_check (registry : Registry) :
    Records here (.ofExcept (registry.check .root)) (Recording.ofExcept (registry.check here)) := by
  refine .ofExcept ?_ rfl
  unfold Registry.check
  split
  · exact (Outcome.within_result_ok here).mpr rfl
  · refine (congrArg Outcome.result (Outcome.within_fail here _)).trans ?_
    simp [Fault.relocate, Location.root]

theorem records_readApp {v : Json} :
    Records here (Document.readApp site v) (Recording.readApp site here v) := by
  refine (Records.fieldAt (asObject_journal v)).bind fun o => ?_
  refine (Records.fieldAt (readNamespace_journal o)).bind fun name => ?_
  refine records_readDomain.bind fun domainId => ?_
  refine (Records.fieldAt (Fields.code_journal o "protocol_type")).bind fun protocol => ?_
  refine records_readReference.bind fun schedulerConfig => ?_
  refine recordsNames_readNodes.listen_bind fun nodes journal => ?_
  refine records_readModules.bind fun modules => ?_
  refine (records_check ⟨journal.registered⟩).bind fun _ => ?_
  exact .log_bind (.pure _)

/-! ## Documents -/

theorem records_versionOfText (text : String) :
    Records here (Version.ofText text) (Recording.versionOfText here text) := by
  unfold Version.ofText Recording.versionOfText
  cases Version.groups? text.toList with
  | none => exact .fail (.invalidVersion text)
  | some groups =>
    refine .log_bind ?_
    by_cases hl : Version.groupLimit < groups.length
    · simp only [hl, if_true]
      exact (Records.note_root rfl).bind fun _ => .pure _
    · simp only [hl, if_false]
      exact .pure _

theorem records_readVersion :
    Records here (Document.readVersion o) (Recording.readVersion here o) := by
  refine (Records.fieldAt (Fields.text_journal o "wolfes_version")).bind fun text => ?_
  exact (records_versionOfText text).under

theorem records_readApps :
    Records here (Document.readApps site o) (Recording.readApps site here o) := by
  refine (Records.fieldAt (Fields.list_journal o "apps")).bind fun items => ?_
  exact Records.simulation.elements (fun _ _ => records_readApp) items

theorem records_readDocument (site : Site) (v : Json) :
    Records .root (Document.readDocument site v) (Recording.readDocument site v) := by
  refine (Records.fieldAt (asObject_journal v)).bind fun o => ?_
  refine records_readVersion.bind fun version => ?_
  refine (Records.fieldAt (Fields.code_journal o "platform")).bind fun platform => ?_
  refine (Records.fieldAt (Fields.code_journal o "lang")).bind fun language => ?_
  refine records_readApps.bind fun apps => ?_
  exact .log_bind (.pure _)

end AppConfig

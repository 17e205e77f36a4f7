import AppConfig.Proofs.Document.Places
import AppConfig.Proofs.Document.Reading
import AppConfig.Proofs.Journal.Notes

/-! # The diagnostics of a document

* `ownNotes`: the diagnostics about the fields of one object, by its level in the document.
* `notes`: those of an object and of the parts of its lists, in the order of reading.
* `leaves_readDocument`: reading a document leaves the beginning of its diagnostics, and all of
  them if it ends with a plan.
-/

namespace AppConfig.Document
set_option autoImplicit false
open Outcome
open Fields (present?)

variable {α β : Type} {site : Site} {o : Members} {key default : String}

/-! ## The diagnostics of an object -/

def defaultedNotes (o : Members) (key default : String) : Diagnostics :=
  match present? o key with
  | none => [.defaulted [.field key] default]
  | some _ => []

def omittedNotes (o : Members) (key : String) : Diagnostics :=
  match present? o key with
  | none => [.omitted [.field key]]
  | some _ => []

def versionNotes (o : Members) : Diagnostics :=
  match present? o "wolfes_version" with
  | some (.string s) => (Version.notes s).map (Diagnostic.under (.field "wolfes_version"))
  | _ => []

/-- Timers carry no message. -/
def sourceNotes (kind : EntityKind) (o : Members) : Diagnostics :=
  match kind with
  | .timer => []
  | .endpoint _ => omittedNotes o "msg_src"

/-- The diagnostics about the fields of an object that stands at an index of its list. -/
def ownNotes : Level → Nat → Members → Diagnostics
  | .root, _, o => versionNotes o
  | .app, _, o => defaultedNotes o "domain_id" "0" ++ omittedNotes o "scheduler_config"
  | .node, _, o => omittedNotes o "qos_config"
  | .module, _, _ => [.placeholder [] "module"]
  | .entity kind, index, o =>
    defaultedNotes o "identifier" (kind.defaultId index) ++ (sourceNotes kind o ++
      defaultedNotes o kind.functionKey (kind.defaultFunction index))

/-! ## The diagnostics of lists -/

/-- The diagnostics of a value that has to be an object. -/
def objectNotes (notes : Members → Diagnostics) : Json → Diagnostics
  | .object o => notes o
  | _ => []

/-- The diagnostics of the elements of a list, seen from the object around it. -/
def itemNotes (key : String) (items : List Json) (notes : Nat → Members → Diagnostics) :
    Diagnostics :=
  (items.mapIdx fun k item =>
    (objectNotes (notes k) item).map (Diagnostic.under (.element key k))).flatten

def listNotes (o : Members) (key : String) (notes : Nat → Members → Diagnostics) : Diagnostics :=
  match present? o key with
  | some (.list items) => itemNotes key items notes
  | _ => []

def nodeNotes (o : Members) : Diagnostics :=
  ownNotes .node 0 o ++
    EntityKind.all.flatMap fun kind => listNotes o kind.listKey (ownNotes (.entity kind))

def appNotes (o : Members) : Diagnostics :=
  ownNotes .app 0 o ++ (listNotes o "nodes" (fun _ => nodeNotes) ++
    listNotes o "modules" (ownNotes .module))

def rootNotes (o : Members) : Diagnostics :=
  ownNotes .root 0 o ++ listNotes o "apps" fun _ => appNotes

/-- The diagnostics of an object of a level, parts included. -/
def notes : Level → Nat → Members → Diagnostics
  | .root, _, o => rootNotes o
  | .app, _, o => appNotes o
  | .node, _, o => nodeNotes o
  | .module, index, o => ownNotes .module index o
  | .entity kind, index, o => ownNotes (.entity kind) index o

/-! ## Fields -/

theorem defaultedNotes_of_none (h : present? o key = none) :
    defaultedNotes o key default = [.defaulted [.field key] default] := by
  rw [defaultedNotes, h]

theorem defaultedNotes_of_some {v : Json} (h : present? o key = some v) :
    defaultedNotes o key default = [] := by
  rw [defaultedNotes, h]

theorem omittedNotes_of_none (h : present? o key = none) :
    omittedNotes o key = [.omitted [.field key]] := by
  rw [omittedNotes, h]

theorem omittedNotes_of_some {v : Json} (h : present? o key = some v) :
    omittedNotes o key = [] := by
  rw [omittedNotes, h]

theorem leaves_declaredOr : Leaves (defaultedNotes o key default) (declaredOr o key default) := by
  refine .silent_bind (.of_silent (Fields.optionalText_journal o key)) fun declared hdeclared => ?_
  rw [Fields.optionalText_result_ok] at hdeclared
  cases declared with
  | none =>
    rw [defaultedNotes_of_none hdeclared]
    exact .bind_silent (.note _) fun _ _ => .pure default
  | some name =>
    rw [defaultedNotes_of_some hdeclared]
    exact .pure name

theorem leaves_register (name : String) : Leaves [] (register key name) := by
  unfold register
  by_cases hvalid : Identifier.isValid name = true
  · rw [if_pos hvalid]
    exact .log _
  · rw [if_neg hvalid]
    exact .fail _

theorem leaves_readSymbol : Leaves (defaultedNotes o key default) (readSymbol o key default) := by
  refine .bind_silent leaves_declaredOr fun name _ => ?_
  exact .bind_silent (leaves_register name) fun _ _ => .pure name

theorem leaves_readReference : Leaves (omittedNotes o key) (readReference site o key) := by
  refine .silent_bind (.of_silent (Fields.optionalText_journal o key)) fun declared hdeclared => ?_
  rw [Fields.optionalText_result_ok] at hdeclared
  cases declared with
  | none =>
    rw [omittedNotes_of_none hdeclared]
    exact .bind_silent (.note _) fun _ _ => .pure none
  | some raw =>
    rw [omittedNotes_of_some hdeclared]
    exact .silent_bind (.of_silent (requireFile_journal site key raw)) fun _ _ => .pure _

/-! ## Entities -/

theorem leaves_code (α : Type) [Coded α] : Leaves [] (Fields.code α o key) :=
  .of_silent (Fields.code_journal o key)

theorem leaves_text : Leaves [] (Fields.text o key) := .of_silent (Fields.text_journal o key)

theorem leaves_readTimer (index : Nat) (o : Members) :
    Leaves (ownNotes (.entity .timer) index o) (readTimer index o) := by
  refine .bind leaves_readSymbol fun id _ => ?_
  refine .silent_bind (leaves_code TimerClock) fun clock _ => ?_
  refine .silent_bind (.of_silent (Fields.natural_journal o "period")) fun period _ => ?_
  exact .bind_silent leaves_readSymbol fun callback _ => .pure _

theorem leaves_readMessage : Leaves (omittedNotes o "msg_src") (readMessage site o) := by
  refine .silent_bind leaves_text fun name _ => ?_
  refine .silent_bind (leaves_code MessageFormat) fun format _ => ?_
  exact .bind_silent leaves_readReference fun source _ => .pure _

theorem leaves_readEndpoint (kind : EndpointKind) (index : Nat) (o : Members) :
    Leaves (ownNotes (.entity (.endpoint kind)) index o) (readEndpoint site kind index o) := by
  refine .bind leaves_readSymbol fun id _ => ?_
  refine .silent_bind leaves_text fun channel _ => ?_
  refine .bind leaves_readMessage fun message _ => ?_
  exact .bind_silent leaves_readSymbol fun function _ => .pure _

/-! ## Lists -/

theorem leaves_asObject (v : Json) : Leaves [] (asObject v) := .of_silent (asObject_journal v)

theorem leaves_asObjects (items : List Json) :
    Leaves [] (elements key items fun _ v => asObject v) := by
  have h : Leaves (items.mapIdx fun k _ =>
      ([] : Diagnostics).map (Diagnostic.under (.element key k))).flatten
        (elements key items fun _ v => asObject v) := .elements fun _ v _ => leaves_asObject v
  have hnil : (items.mapIdx fun k _ =>
      ([] : Diagnostics).map (Diagnostic.under (.element key k))).flatten = [] := by
    simp
  rwa [hnil] at h

theorem listNotes_of_items {items : List Json} {notes : Nat → Members → Diagnostics}
    (h : (Fields.optionalList o key).result = .ok items) :
    listNotes o key notes = itemNotes key items notes := by
  obtain ⟨declared, hkey, rfl⟩ := Fields.optionalList_result_ok.mp h
  rw [listNotes, hkey]
  cases declared <;> rfl

theorem itemNotes_objects (key : String) (objects : List Members)
    (notes : Nat → Members → Diagnostics) :
    itemNotes key (objects.map .object) notes = (objects.mapIdx fun k inner =>
      (notes k inner).map (Diagnostic.under (.element key k))).flatten := by
  rw [itemNotes]
  congr 1
  rw [List.mapIdx_eq_iff]
  intro k
  rw [List.getElem?_mapIdx, List.getElem?_map]
  cases objects[k]? <;> rfl

theorem leaves_readEntities {kind : EntityKind} {f : Nat → Members → Outcome β}
    {notes : Nat → Members → Diagnostics} (h : ∀ k inner, Leaves (notes k inner) (f k inner)) :
    Leaves (listNotes o kind.listKey notes) (readEntities o kind f) := by
  refine .silent_bind (.of_silent (Fields.optionalList_journal o _)) fun items hitems => ?_
  rw [listNotes_of_items hitems]
  refine .silent_bind (leaves_asObjects items) fun objects hobjects => ?_
  have hsame : items = objects.map .object := by
    have hplaces := elements_result_ok.mp hobjects
    rw [← List.map_id items]
    exact hplaces.map_eq fun _ _ _ _ _ hv => asObject_result_ok.mp hv
  rw [hsame, itemNotes_objects]
  exact .elements fun k inner _ => h k inner

theorem leaves_elements {items : List Json} {f : Nat → Json → Outcome β}
    {notes : Nat → Members → Diagnostics} (h : ∀ k v, Leaves (objectNotes (notes k) v) (f k v)) :
    Leaves (itemNotes key items notes) (elements key items f) := .elements fun k v _ => h k v

theorem leaves_object {notes : Members → Diagnostics} {f : Members → Outcome β} {v : Json}
    (h : ∀ o, Leaves (notes o) (f o)) : Leaves (objectNotes notes v) (asObject v >>= f) := by
  cases hv : v with
  | object o => exact h o
  | _ => exact .fail _

/-! ## Nodes and modules -/

theorem leaves_refuseItems (feature : String) : Leaves [] (refuseItems o key feature) := by
  refine .silent_bind (.of_silent (Fields.optionalList_journal o key)) fun items _ => ?_
  cases items with
  | nil => exact .pure ()
  | cons v rest => exact .fail _

theorem leaves_readClassname : Leaves [] (readClassname o) := by
  refine .silent_bind leaves_text fun name _ => ?_
  exact .bind_silent (leaves_register name) fun _ _ => .pure name

theorem leaves_readNode (v : Json) : Leaves (objectNotes nodeNotes v) (readNode site v) := by
  refine leaves_object fun o => ?_
  have hendpoints : ∀ kind : EndpointKind,
      Leaves (listNotes o (EntityKind.endpoint kind).listKey (ownNotes (.entity (.endpoint kind))))
        (readEndpoints site o kind) := fun kind => leaves_readEntities (leaves_readEndpoint kind)
  refine .silent_bind leaves_readClassname fun classname _ => ?_
  refine .bind leaves_readReference fun qosConfig _ => ?_
  refine .bind (leaves_readEntities leaves_readTimer) fun timers _ => ?_
  refine .bind (hendpoints .topicPub) fun topicPubs _ => ?_
  refine .bind (hendpoints .topicSub) fun topicSubs _ => ?_
  refine .bind (hendpoints .serviceServer) fun serviceServers _ => ?_
  refine .bind (hendpoints .serviceClient) fun serviceClients _ => ?_
  refine .silent_bind (leaves_refuseItems _) fun _ _ => ?_
  refine .silent_bind (leaves_refuseItems _) fun _ _ => ?_
  exact .pure _

theorem leaves_readModule (index : Nat) (v : Json) :
    Leaves (objectNotes (ownNotes .module index) v) (readModule v) := by
  refine leaves_object fun o => ?_
  exact .bind_silent (.note _) fun _ _ => .pure _

/-! ## Apps -/

theorem leaves_readNamespace : Leaves [] (readNamespace o) := by
  refine .silent_bind leaves_text fun name _ => ?_
  by_cases hvalid : Identifier.isValid name = true
  · rw [if_pos hvalid]
    exact .pure name
  · rw [if_neg hvalid]
    exact .fail _

theorem leaves_readDomain : Leaves (defaultedNotes o "domain_id" "0") (readDomain o) := by
  refine .silent_bind (.of_silent (Fields.optionalNatural32_journal o _))
    fun declared hdeclared => ?_
  rw [Fields.optionalNatural32_result_ok] at hdeclared
  cases declared with
  | none =>
    rw [defaultedNotes_of_none hdeclared]
    exact .bind_silent (.note _) fun _ _ => .pure 0
  | some id =>
    rw [defaultedNotes_of_some hdeclared]
    exact .pure id

theorem leaves_list_elements {f : Nat → Json → Outcome β} {notes : Nat → Members → Diagnostics}
    (h : ∀ k v, Leaves (objectNotes (notes k) v) (f k v)) :
    Leaves (listNotes o key notes) (Fields.list o key >>= fun items => elements key items f) := by
  refine .silent_bind (.of_silent (Fields.list_journal o key)) fun items hitems => ?_
  have hnotes : listNotes o key notes = itemNotes key items notes := by
    rw [listNotes, Fields.list_result_ok.mp hitems]
  rw [hnotes]
  exact leaves_elements h

theorem leaves_optionalList_elements {f : Nat → Json → Outcome β}
    {notes : Nat → Members → Diagnostics} (h : ∀ k v, Leaves (objectNotes (notes k) v) (f k v)) :
    Leaves (listNotes o key notes)
      (Fields.optionalList o key >>= fun items => elements key items f) := by
  refine .silent_bind (.of_silent (Fields.optionalList_journal o key)) fun items hitems => ?_
  rw [listNotes_of_items hitems]
  exact leaves_elements h

theorem leaves_readApp (v : Json) : Leaves (objectNotes appNotes v) (readApp site v) := by
  refine leaves_object fun o => ?_
  have hnodes : Leaves (listNotes o "nodes" fun _ => nodeNotes) (readNodes site o) :=
    leaves_list_elements fun _ v => leaves_readNode v
  have hmodules : Leaves (listNotes o "modules" (ownNotes .module)) (readModules o) :=
    leaves_optionalList_elements leaves_readModule
  rw [appNotes, ownNotes, List.append_assoc]
  refine .silent_bind leaves_readNamespace fun name _ => ?_
  refine .bind leaves_readDomain fun domainId _ => ?_
  refine .silent_bind (leaves_code Protocol) fun protocol _ => ?_
  refine .bind leaves_readReference fun schedulerConfig _ => ?_
  refine .bind hnodes.listen fun nodes _ => ?_
  refine .bind_silent hmodules fun modules _ => ?_
  refine .silent_bind (.of_silent rfl) fun _ _ => ?_
  exact .bind_silent (.log _) fun _ _ => .pure _

/-! ## Documents -/

theorem readVersion_diagnostics (o : Members) :
    (readVersion o).journal.diagnostics = versionNotes o := by
  rw [readVersion, versionNotes]
  cases htext : (Fields.text o "wolfes_version").result with
  | error fault =>
    rw [bind_journal_error htext, Fields.text_journal]
    split
    · next s hs =>
      rw [Fields.text_result_ok.mpr hs] at htext
      cases htext
    · rfl
  | ok s =>
    rw [bind_journal_ok htext, Fields.text_journal, List.nil_append, under_journal,
      Journal.diagnostics_under, Version.ofText_diagnostics, Fields.text_result_ok.mp htext]

/-- Reading a document leaves its diagnostics, as far as it comes. -/
theorem leaves_readDocument (v : Json) :
    Leaves (objectNotes rootNotes v) (readDocument site v) := by
  refine leaves_object fun o => ?_
  have happs : Leaves (listNotes o "apps" fun _ => appNotes) (readApps site o) :=
    leaves_list_elements fun _ v => leaves_readApp v
  refine .bind (.of_eq (readVersion_diagnostics o)) fun version _ => ?_
  refine .silent_bind (leaves_code Platform) fun platform _ => ?_
  refine .silent_bind (leaves_code Language) fun language _ => ?_
  refine .bind_silent happs fun apps _ => ?_
  exact .bind_silent (.log _) fun _ _ => .pure _

end AppConfig.Document

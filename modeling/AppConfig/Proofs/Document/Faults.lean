import AppConfig.Proofs.Document.Reading
import AppConfig.Proofs.Document.Truth
import AppConfig.Proofs.Naming.Defaults

/-! # Readers fail truthfully

`truthful_of_readDocument`: every fault that reading a document ends with tells the truth about the
document. One lemma for each reader, relative to the part that the reader is given.
-/

namespace AppConfig.Document
set_option autoImplicit false
open Outcome
open Fields (present?)

variable {site : Site} {level : Level} {o : Members} {key : String}

/-! ## Fields -/

theorem resolve_field_present {v : Json} (h : present? o key = some v) :
    Location.resolve [.field key] (.object o) = some v := by
  rw [resolve_field]
  exact (Fields.present?_eq_some.mp h).1

theorem truthful_wrongShape {v : Json} {shape : Shape} (hv : present? o key = some v)
    (h : ¬ shape.Admits v) :
    Truthful site level (.object o) (.wrongShape [.field key] shape.describe) :=
  Holds.truthful rfl ⟨shape, v, rfl, resolve_field_present hv, h,
    fun _ => (Fields.present?_eq_some.mp hv).2⟩

theorem faults_asObject (v : Json) : FaultsIn (Truthful site level v) (asObject v) := by
  have hwrong : ¬ Shape.object.Admits v →
      Truthful site level v (.wrongShape [] Shape.object.describe) := by
    intro h
    refine ⟨fun l hl => ?_, .object, v, rfl, rfl, h, fun hfield => absurd rfl hfield⟩
    obtain rfl : [] = l := Option.some.inj hl
    exact .here level v
  cases v with
  | object o => exact .pure o
  | _ => exact .fail (hwrong id)

theorem faults_require (hkey : key ∈ requiredKeys level) :
    FaultsIn (Truthful site level (.object o)) (Fields.require o key) := by
  unfold Fields.require
  cases hv : present? o key with
  | some v => exact .pure v
  | none =>
    exact .fail (Holds.truthful rfl ⟨[], key, level, o, rfl, .here level, rfl,
      Fields.present?_eq_none.mp hv, hkey⟩)

theorem faults_asText {v : Json} (hv : present? o key = some v) :
    FaultsIn (Truthful site level (.object o)) (Fields.asText key v) := by
  cases v with
  | string s => exact .pure s
  | _ => exact .fail (truthful_wrongShape hv id)

theorem faults_asList {v : Json} (hv : present? o key = some v) :
    FaultsIn (Truthful site level (.object o)) (Fields.asList key v) := by
  cases v with
  | list items => exact .pure items
  | _ => exact .fail (truthful_wrongShape hv id)

/-- The shape admits nothing but integers that the word holds. -/
def IsOfWords {α : Type} (shape : Shape) (word? : Int → Option α) : Prop :=
  ∀ v, shape.Admits v → ∃ n a, v = .int n ∧ word? n = some a

theorem isOfWords_integer : IsOfWords .integer int64? := by
  intro v h
  cases v with
  | int n => exact ⟨n, n, rfl, if_pos h⟩
  | _ => exact h.elim

theorem isOfWords_natural : IsOfWords .natural uint64? := by
  intro v h
  cases v with
  | int n => exact ⟨n, _, rfl, if_pos h⟩
  | _ => exact h.elim

theorem isOfWords_natural32 : IsOfWords .natural32 uint32? := by
  intro v h
  cases v with
  | int n => exact ⟨n, _, rfl, if_pos h⟩
  | _ => exact h.elim

theorem faults_asWord {α : Type} {shape : Shape} {word? : Int → Option α} {v : Json}
    (hv : present? o key = some v) (hshape : IsOfWords shape word?) :
    FaultsIn (Truthful site level (.object o)) (Fields.asWord key shape word? v) := by
  by_cases h : ∃ n a, v = .int n ∧ word? n = some a
  · obtain ⟨n, a, rfl, hn⟩ := h
    exact .of_ok (Fields.asWord_result_ok.mpr ⟨n, rfl, hn⟩)
  · have hwrong : FaultsIn (Truthful site level (.object o)) (Fields.refuse key shape : Outcome α) :=
      .fail (truthful_wrongShape hv fun hadmits => h (hshape v hadmits))
    cases v with
    | int n =>
      cases hn : word? n with
      | some a => exact absurd ⟨n, a, rfl, hn⟩ h
      | none =>
        rw [Fields.asWord, hn]
        exact hwrong
    | _ => exact hwrong

theorem faults_text (hkey : key ∈ requiredKeys level) :
    FaultsIn (Truthful site level (.object o)) (Fields.text o key) :=
  .bind (faults_require hkey) fun _ hv => faults_asText (Fields.require_result_ok.mp hv)

theorem faults_optionalText :
    FaultsIn (Truthful site level (.object o)) (Fields.optionalText o key) := by
  unfold Fields.optionalText
  cases hv : present? o key with
  | none => exact .pure none
  | some v => exact .map some (faults_asText hv)

theorem faults_integer (hkey : key ∈ requiredKeys level) :
    FaultsIn (Truthful site level (.object o)) (Fields.integer o key) :=
  .bind (faults_require hkey) fun _ hv =>
    faults_asWord (Fields.require_result_ok.mp hv) isOfWords_integer

theorem faults_natural (hkey : key ∈ requiredKeys level) :
    FaultsIn (Truthful site level (.object o)) (Fields.natural o key) :=
  .bind (faults_require hkey) fun _ hv =>
    faults_asWord (Fields.require_result_ok.mp hv) isOfWords_natural

theorem faults_optionalNatural32 :
    FaultsIn (Truthful site level (.object o)) (Fields.optionalNatural32 o key) := by
  unfold Fields.optionalNatural32
  cases hv : present? o key with
  | none => exact .pure none
  | some v => exact .map some (faults_asWord hv isOfWords_natural32)

theorem faults_code (α : Type) [Coded α] [LawfulCoded α] (hkey : key ∈ requiredKeys level) :
    FaultsIn (Truthful site level (.object o)) (Fields.code α o key) := by
  apply FaultsIn.bind (faults_integer hkey)
  intro n hn
  cases hcode : Coded.ofCode? α n with
  | some a => exact .pure a
  | none =>
    have hv := (Fields.integer_result_ok.mp hn).1
    exact .fail (Holds.truthful rfl ⟨resolve_field_present hv, _, LawfulCoded.declared,
      Coded.ofCode?_eq_none.mp hcode⟩)

theorem faults_list (hkey : key ∈ requiredKeys level) :
    FaultsIn (Truthful site level (.object o)) (Fields.list o key) :=
  .bind (faults_require hkey) fun _ hv => faults_asList (Fields.require_result_ok.mp hv)

theorem faults_optionalList :
    FaultsIn (Truthful site level (.object o)) (Fields.optionalList o key) := by
  unfold Fields.optionalList
  cases hv : present? o key with
  | none => exact .pure []
  | some v => exact faults_asList hv

/-! ## Names and references -/

/-- A name that is refused stands in the document: no default name is refused. -/
theorem faults_register {name : String}
    (h : present? o key = some (.string name) ∨ Identifier.isValid name = true) :
    FaultsIn (Truthful site level (.object o)) (register key name) := by
  unfold register
  by_cases hvalid : Identifier.isValid name = true
  · rw [if_pos hvalid]
    exact .log _
  · rw [if_neg hvalid]
    have hv := h.resolve_right hvalid
    exact .fail (Holds.truthful rfl ⟨resolve_field_present hv, by simpa using hvalid⟩)

theorem faults_declaredOr {default : String} :
    FaultsIn (Truthful site level (.object o)) (declaredOr o key default) := by
  apply FaultsIn.bind faults_optionalText
  intro declared _
  cases declared with
  | none => exact .bind (.note _) fun _ _ => .pure default
  | some name => exact .pure name

theorem faults_readSymbol {default : String} (hdefault : Identifier.isValid default = true) :
    FaultsIn (Truthful site level (.object o)) (readSymbol o key default) := by
  apply FaultsIn.bind faults_declaredOr
  intro name hname
  obtain ⟨declared, hkey, rfl⟩ := declaredOr_result_ok.mp hname
  have hregister : FaultsIn (Truthful site level (.object o))
      (register key (declared.getD default)) := by
    apply faults_register
    cases declared with
    | none => exact .inr hdefault
    | some name => exact .inl hkey
  exact .bind hregister fun _ _ => .pure _

theorem faults_requireFile {raw : String} (hkey : present? o key = some (.string raw)) :
    FaultsIn (Truthful site level (.object o)) (requireFile site key raw) := by
  have hraw := resolve_field_present hkey
  cases looked_requireFile site key raw with
  | found h hrun =>
    rw [hrun]
    exact .pure ()
  | homeless hnames hhome hrun =>
    rw [hrun]
    refine .fail ⟨fun l hl => ?_, hhome, [.field key], raw, hraw, hnames, rfl⟩
    cases hl
  | missing h hrun =>
    rw [hrun]
    exact .fail (Holds.truthful rfl ⟨raw, hraw, rfl, h⟩)

theorem faults_readReference :
    FaultsIn (Truthful site level (.object o)) (readReference site o key) := by
  apply FaultsIn.bind faults_optionalText
  intro declared hdeclared
  have hkey := Fields.optionalText_result_ok.mp hdeclared
  cases declared with
  | none => exact .bind (.note _) fun _ _ => .pure none
  | some raw => exact .bind (faults_requireFile hkey) fun _ _ => .pure (some raw)

/-! ## Lists -/

section Lists
variable {α β : Type} {below : Level} {items : List Json}

theorem faults_elements {items : List α} {f : Nat → α → Outcome β}
    (hstep : ∀ k, Step level (.element key k) below)
    (h : ∀ k a, items[k]? = some a → ∃ v, (Segment.element key k).resolve (.object o) = some v ∧
      FaultsIn (Truthful site below v) (f k a)) :
    FaultsIn (Truthful site level (.object o)) (elements key items f) := by
  apply FaultsIn.elements
  intro k a ha fault hf
  obtain ⟨v, hv, hfaults⟩ := h k a ha
  exact (hfaults fault hf).under (hstep k) hv

theorem resolve_element {k : Nat} {v : Json} (hkey : present? o key = some (.list items))
    (hv : items[k]? = some v) : (Segment.element key k).resolve (.object o) = some v := by
  rw [Segment.resolve, (Fields.present?_eq_some.mp hkey).1]
  exact hv

/-- The elements of a list that may be absent are in the document. -/
theorem resolve_optional_element {k : Nat} {v : Json}
    (h : (Fields.optionalList o key).result = .ok items) (hv : items[k]? = some v) :
    (Segment.element key k).resolve (.object o) = some v := by
  obtain ⟨declared, hkey, rfl⟩ := Fields.optionalList_result_ok.mp h
  cases declared with
  | none => cases hv
  | some items => exact resolve_element hkey hv

theorem faults_readEntities {kind : EntityKind} {f : Nat → Members → Outcome β}
    (h : ∀ k inner, FaultsIn (Truthful site (.entity kind) (.object inner)) (f k inner)) :
    FaultsIn (Truthful site .node (.object o)) (readEntities o kind f) := by
  apply FaultsIn.bind faults_optionalList
  intro items hitems
  have hstep : ∀ k, Step .node (.element kind.listKey k) (.entity kind) := Step.entity kind
  have hobjects : FaultsIn (Truthful site .node (.object o))
      (elements kind.listKey items fun _ v => asObject v) := by
    apply faults_elements hstep
    intro k v hv
    exact ⟨v, resolve_optional_element hitems hv, faults_asObject v⟩
  apply FaultsIn.bind hobjects
  intro objects hran
  have hplaces := elements_result_ok.mp hran
  apply faults_elements hstep
  intro k inner hinner
  obtain ⟨v, hv, hobject⟩ := hplaces.exists_item_at hinner
  obtain rfl := asObject_result_ok.mp hobject
  exact ⟨.object inner, resolve_optional_element hitems hv, h k inner⟩

theorem faults_list_elements {f : Nat → Json → Outcome β} (hkey : key ∈ requiredKeys level)
    (hstep : ∀ k, Step level (.element key k) below)
    (h : ∀ k v, FaultsIn (Truthful site below v) (f k v)) :
    FaultsIn (Truthful site level (.object o))
      (Fields.list o key >>= fun items => elements key items f) := by
  apply FaultsIn.bind (faults_list hkey)
  intro items hitems
  apply faults_elements hstep
  intro k v hv
  exact ⟨v, resolve_element (Fields.list_result_ok.mp hitems) hv, h k v⟩

theorem faults_optionalList_elements {f : Nat → Json → Outcome β}
    (hstep : ∀ k, Step level (.element key k) below)
    (h : ∀ k v, FaultsIn (Truthful site below v) (f k v)) :
    FaultsIn (Truthful site level (.object o))
      (Fields.optionalList o key >>= fun items => elements key items f) := by
  apply FaultsIn.bind faults_optionalList
  intro items hitems
  apply faults_elements hstep
  intro k v hv
  exact ⟨v, resolve_optional_element hitems hv, h k v⟩

end Lists

/-! ## Entities -/

theorem faults_readTimer (index : Nat) (o : Members) :
    FaultsIn (Truthful site (.entity .timer) (.object o)) (readTimer index o) := by
  have hclock : "type" ∈ requiredKeys (.entity .timer) := by decide
  have hperiod : "period" ∈ requiredKeys (.entity .timer) := by decide
  refine .bind (faults_readSymbol (EntityKind.isValid_defaultId _ index)) fun id _ => ?_
  refine .bind (faults_code TimerClock hclock) fun clock _ => ?_
  refine .bind (faults_natural hperiod) fun period _ => ?_
  refine .bind (faults_readSymbol (EntityKind.isValid_defaultFunction _ index)) fun callback _ => ?_
  exact .pure _

theorem faults_readMessage (kind : EndpointKind) (o : Members) :
    FaultsIn (Truthful site (.entity (.endpoint kind)) (.object o)) (readMessage site o) := by
  have hname : "message" ∈ requiredKeys (.entity (.endpoint kind)) := by simp [requiredKeys]
  have hformat : "msg_type" ∈ requiredKeys (.entity (.endpoint kind)) := by simp [requiredKeys]
  refine .bind (faults_text hname) fun name _ => ?_
  refine .bind (faults_code MessageFormat hformat) fun format _ => ?_
  refine .bind faults_readReference fun source _ => ?_
  exact .pure _

theorem faults_readEndpoint (kind : EndpointKind) (index : Nat) (o : Members) :
    FaultsIn (Truthful site (.entity (.endpoint kind)) (.object o))
      (readEndpoint site kind index o) := by
  have hchannel : kind.channelKey ∈ requiredKeys (.entity (.endpoint kind)) := by
    simp [requiredKeys]
  refine .bind (faults_readSymbol (EntityKind.isValid_defaultId _ index)) fun id _ => ?_
  refine .bind (faults_text hchannel) fun channel _ => ?_
  refine .bind (faults_readMessage kind o) fun message _ => ?_
  refine .bind (faults_readSymbol (EntityKind.isValid_defaultFunction _ index)) fun function _ => ?_
  exact .pure _

/-! ## Nodes and modules -/

theorem faults_refuseItems {feature : String} (h : (key, feature) ∈ unsupportedLists) :
    FaultsIn (Truthful site .node (.object o)) (refuseItems o key feature) := by
  apply FaultsIn.bind faults_optionalList
  intro items hitems
  cases items with
  | nil => exact .pure ()
  | cons v rest =>
    obtain ⟨declared, hkey, hdeclared⟩ := Fields.optionalList_result_ok.mp hitems
    cases declared with
    | none => cases hdeclared
    | some items =>
      obtain rfl : v :: rest = items := hdeclared
      exact .fail (Holds.truthful rfl ⟨[], key, v :: rest, rfl, .here .node,
        resolve_field_present hkey, by simp, h⟩)

theorem faults_readClassname (o : Members) :
    FaultsIn (Truthful site .node (.object o)) (readClassname o) := by
  refine .bind (faults_text (by decide)) fun name hname => ?_
  refine .bind (faults_register (.inl (Fields.text_result_ok.mp hname))) fun _ _ => ?_
  exact .pure name

theorem faults_readNode (v : Json) : FaultsIn (Truthful site .node v) (readNode site v) := by
  apply FaultsIn.bind (faults_asObject v)
  intro o ho
  obtain rfl := asObject_result_ok.mp ho
  have hendpoints : ∀ kind : EndpointKind,
      FaultsIn (Truthful site .node (.object o)) (readEndpoints site o kind) :=
    fun kind => faults_readEntities (faults_readEndpoint kind)
  refine .bind (faults_readClassname o) fun classname _ => ?_
  refine .bind faults_readReference fun qosConfig _ => ?_
  refine .bind (faults_readEntities faults_readTimer) fun timers _ => ?_
  refine .bind (hendpoints .topicPub) fun topicPubs _ => ?_
  refine .bind (hendpoints .topicSub) fun topicSubs _ => ?_
  refine .bind (hendpoints .serviceServer) fun serviceServers _ => ?_
  refine .bind (hendpoints .serviceClient) fun serviceClients _ => ?_
  refine .bind (faults_refuseItems (by decide)) fun _ _ => ?_
  refine .bind (faults_refuseItems (by decide)) fun _ _ => ?_
  exact .pure _

theorem faults_readModule (v : Json) : FaultsIn (Truthful site .module v) (readModule v) := by
  refine .bind (faults_asObject v) fun o _ => ?_
  refine .bind (.note _) fun _ _ => ?_
  exact .pure _

/-! ## Apps -/

theorem faults_readNamespace (o : Members) :
    FaultsIn (Truthful site .app (.object o)) (readNamespace o) := by
  refine .bind (faults_text (by decide)) fun name hname => ?_
  by_cases hvalid : Identifier.isValid name = true
  · rw [if_pos hvalid]
    exact .pure name
  · rw [if_neg hvalid]
    have hkey := Fields.text_result_ok.mp hname
    exact .fail (Holds.truthful rfl ⟨resolve_field_present hkey, by simpa using hvalid⟩)

theorem faults_readDomain (o : Members) :
    FaultsIn (Truthful site .app (.object o)) (readDomain o) := by
  apply FaultsIn.bind faults_optionalNatural32
  intro declared _
  cases declared with
  | none => exact .bind (.note _) fun _ _ => .pure 0
  | some id => exact .pure id

theorem faults_check (o : Members) (r : Registry) :
    FaultsIn (Truthful site .app (.object o)) (.ofExcept (r.check .root)) := by
  intro fault hf
  obtain ⟨-, rfl⟩ := Registry.check_eq_error.mp hf
  refine ⟨fun l hl => ?_, .here .app, o, rfl⟩
  obtain rfl : Location.root = l := Option.some.inj hl
  exact .here .app (.object o)

theorem faults_readNodes (o : Members) :
    FaultsIn (Truthful site .app (.object o)) (readNodes site o) :=
  faults_list_elements (by decide) Step.node fun _ v => faults_readNode v

theorem faults_readModules (o : Members) :
    FaultsIn (Truthful site .app (.object o)) (readModules o) :=
  faults_optionalList_elements Step.module fun _ v => faults_readModule v

theorem faults_readApp (v : Json) : FaultsIn (Truthful site .app v) (readApp site v) := by
  apply FaultsIn.bind (faults_asObject v)
  intro o ho
  obtain rfl := asObject_result_ok.mp ho
  refine .bind (faults_readNamespace o) fun name _ => ?_
  refine .bind (faults_readDomain o) fun domainId _ => ?_
  refine .bind (faults_code Protocol (by decide)) fun protocol _ => ?_
  refine .bind faults_readReference fun schedulerConfig _ => ?_
  refine .bind (.listen (faults_readNodes o)) fun nodes _ => ?_
  refine .bind (faults_readModules o) fun modules _ => ?_
  refine .bind (faults_check o _) fun _ _ => ?_
  refine .bind (.log _) fun _ _ => ?_
  exact .pure _

/-! ## Documents -/

theorem faults_readVersion (o : Members) :
    FaultsIn (Truthful site .root (.object o)) (readVersion o) := by
  refine .bind (faults_text (by decide)) fun text htext => ?_
  have hkey := resolve_field_present (Fields.text_result_ok.mp htext)
  intro fault hf
  obtain ⟨inner, hinner, rfl⟩ := under_result_error.mp hf
  obtain ⟨-, rfl⟩ := Version.ofText_result_error.mp hinner
  have hnone : ∀ version : Version, ¬ version.IsWritten text := by
    intro version hversion
    rw [Version.ofText_result_ok.mpr hversion] at hinner
    cases hinner
  exact ⟨fun l hl => (by cases hl), rfl, hkey, hnone⟩

theorem faults_readApps (o : Members) :
    FaultsIn (Truthful site .root (.object o)) (readApps site o) :=
  faults_list_elements (by decide) Step.app fun _ v => faults_readApp v

theorem faults_readDocument (v : Json) :
    FaultsIn (Truthful site .root v) (readDocument site v) := by
  apply FaultsIn.bind (faults_asObject v)
  intro o ho
  obtain rfl := asObject_result_ok.mp ho
  refine .bind (faults_readVersion o) fun version _ => ?_
  refine .bind (faults_code Platform (by decide)) fun platform _ => ?_
  refine .bind (faults_code Language (by decide)) fun language _ => ?_
  refine .bind (faults_readApps o) fun apps _ => ?_
  refine .bind (.log _) fun _ _ => ?_
  exact .pure _

/-- What a fault says of the place it names is true of the document, and the app and the node that
it counts are those around the place. -/
theorem truthful_of_readDocument {site : Site} {doc : Json} {fault : Fault}
    (h : (readDocument site doc).result = .error fault) :
    Truthful site .root doc fault ∧ ∀ l, fault.location? = some l → IsIndexed doc l := by
  have htruth : Truthful site .root doc fault := faults_readDocument doc fault h
  exact ⟨htruth, fun l hl => (htruth.place l hl).isIndexed⟩

/-- A machine without files. -/
def emptySite : Site := ⟨some ⟨"/home/user"⟩, none, fun _ => false⟩

/-- The fault of the small document there: its publisher names a file. -/
def sourceNotFound : Fault :=
  .referenceNotFound [.element "apps" 0, .element "nodes" 0, .element "topic_pubs" 0,
    .field "msg_src"] ⟨"/home/user/msgs.hpp"⟩

theorem truthful_sourceNotFound :
    (readDocument emptySite smallDocument).result = .error sourceNotFound ∧
      Truthful emptySite .root smallDocument sourceNotFound ∧
      ∀ l, sourceNotFound.location? = some l → IsIndexed smallDocument l :=
  ⟨rfl, truthful_of_readDocument rfl⟩

end AppConfig.Document

import AppConfig.Document.Reader
import AppConfig.Proofs.Document.Fields
import AppConfig.Proofs.Document.Told
import AppConfig.Proofs.Document.Truth
import AppConfig.Proofs.Journal.Mirrors

/-! # Documents that are read alike

* `filled`: what stands under a key once its default is written out.
* `EntityAlike`, `NodeAlike`, `AppAlike`, `RootAlike`: two objects of a level have the same under
  every key that is read; under a key with a default, if `quiet`, the second has the default where
  the first has nothing.
* `mirrors_readEntities`, `mirrors_readNode`, `mirrors_readApp`: such objects are read alike, and
  only the warnings about the defaults go.
* `mirrors_readDocument`: so are documents.
-/

namespace AppConfig.Document
set_option autoImplicit false
open Outcome
open Fields (present?)

variable {β : Type} {quiet : Bool} {site : Site} {o o' : Members} {key : String}

/-! ## Objects and lists -/

/-- The default in place of a value that is absent, or nothing in its place. -/
def filled (quiet : Bool) (default : Json) (v : Option Json) : Option Json :=
  if quiet then some (v.getD default) else v

def SameAt (keys : List String) (o o' : Members) : Prop :=
  ∀ key ∈ keys, present? o' key = present? o key

/-- Two objects that are related, or twice what is no object. -/
inductive ObjectAlike (R : Members → Members → Prop) : Json → Json → Prop
  | object {o o' : Members} (related : R o o') : ObjectAlike R (.object o) (.object o')
  | other {v : Json} (noObject : ∀ o, v ≠ .object o) : ObjectAlike R v v

/-- Two lists whose elements are related place by place, or twice what is no list. -/
inductive ListAlike (R : Nat → Members → Members → Prop) : Option Json → Option Json → Prop
  | list {items items' : List Json}
    (related : Placewise (fun k => ObjectAlike (R k)) items items') :
    ListAlike R (some (.list items)) (some (.list items'))
  | other {v : Option Json} (noList : ∀ items, v ≠ some (.list items)) : ListAlike R v v

/-- Two lists with something in them, or twice the same. -/
inductive UnusedAlike : Option Json → Option Json → Prop
  | used {v v' : Json} {rest rest' : List Json} :
    UnusedAlike (some (.list (v :: rest))) (some (.list (v' :: rest')))
  | same {v : Option Json} : UnusedAlike v v

structure EntityAlike (quiet : Bool) (kind : EntityKind) (index : Nat) (o o' : Members) : Prop where
  required : SameAt (requiredKeys (.entity kind)) o o'
  references : SameAt (omittedKeys (.entity kind)) o o'
  id : present? o' "identifier" =
    filled quiet (.string (kind.defaultId index)) (present? o "identifier")
  function : present? o' kind.functionKey =
    filled quiet (.string (kind.defaultFunction index)) (present? o kind.functionKey)

structure NodeAlike (quiet : Bool) (o o' : Members) : Prop where
  classname : present? o' "classname" = present? o "classname"
  qosConfig : present? o' "qos_config" = present? o "qos_config"
  entities : ∀ kind : EntityKind,
    ListAlike (EntityAlike quiet kind) (present? o kind.listKey) (present? o' kind.listKey)
  actionServers : UnusedAlike (present? o "action_servers") (present? o' "action_servers")
  actionClients : UnusedAlike (present? o "action_clients") (present? o' "action_clients")

structure AppAlike (quiet : Bool) (o o' : Members) : Prop where
  name : present? o' "namespace" = present? o "namespace"
  domainId : present? o' "domain_id" = filled quiet (.int 0) (present? o "domain_id")
  protocol : present? o' "protocol_type" = present? o "protocol_type"
  schedulerConfig : present? o' "scheduler_config" = present? o "scheduler_config"
  nodes : ListAlike (fun _ => NodeAlike quiet) (present? o "nodes") (present? o' "nodes")
  modules : ListAlike (fun _ _ _ => True) (present? o "modules") (present? o' "modules")

structure RootAlike (quiet : Bool) (o o' : Members) : Prop where
  version : present? o' "wolfes_version" = present? o "wolfes_version"
  platform : present? o' "platform" = present? o "platform"
  language : present? o' "lang" = present? o "lang"
  apps : ListAlike (fun _ => AppAlike quiet) (present? o "apps") (present? o' "apps")

/-! ## Changed lists -/

/-- The objects of the list under a key changed, each by its index. -/
def modifyObjects (key : String) (f : Nat → Members → Members) : Members → Members :=
  Members.modifyList key (Json.mapObjects f)

/-- The entities of a node changed, each by its kind and its index. -/
def modifyEntities (f : EntityKind → Nat → Members → Members) (o : Members) : Members :=
  EntityKind.all.foldr (fun kind => modifyObjects kind.listKey (f kind)) o

section Changes
variable {R : Nat → Members → Members → Prop} {f : EntityKind → Nat → Members → Members}

theorem objectAlike_mapObject {S : Members → Members → Prop} {g : Members → Members} {v : Json}
    (h : ∀ inner, v = .object inner → S inner (g inner)) : ObjectAlike S v (v.mapObject g) := by
  cases v with
  | object inner => exact .object (h inner rfl)
  | _ => exact .other fun _ heq => by cases heq

theorem objectAlike_refl {S : Members → Members → Prop} (h : ∀ inner, S inner inner) (v : Json) :
    ObjectAlike S v v := by
  cases v with
  | object inner => exact .object (h inner)
  | _ => exact .other fun _ heq => by cases heq

theorem listAlike_refl (h : ∀ k inner, R k inner inner) (v : Option Json) : ListAlike R v v := by
  match v with
  | some (.list items) =>
    refine .list ⟨rfl, fun k item item' hitem hitem' => ?_⟩
    obtain rfl : item = item' := Option.some.inj (hitem.symm.trans hitem')
    exact objectAlike_refl (h k) item
  | none | some .null | some (.bool _) | some (.int _) | some (.float _) | some (.string _)
  | some (.object _) => exact .other fun _ heq => by cases heq

theorem listAlike_modifyObjects {g : Nat → Members → Members}
    (h : ∀ items k inner, present? o key = some (.list items) → .object inner ∈ items →
      R k inner (g k inner)) :
    ListAlike R (present? o key) (present? (modifyObjects key g o) key) := by
  rw [modifyObjects, Fields.present?_modifyList_self]
  cases hkey : present? o key with
  | none => exact .other fun _ heq => by cases heq
  | some v =>
    cases v with
    | list items =>
      refine .list ⟨(List.length_mapIdx ..).symm, fun k item item' hitem hitem' => ?_⟩
      rw [Json.mapObjects, List.getElem?_mapIdx, hitem] at hitem'
      obtain rfl := Option.some.inj hitem'
      refine objectAlike_mapObject fun inner hinner => ?_
      exact h items k inner hkey (hinner ▸ List.mem_of_getElem? hitem)
    | _ => exact .other fun _ heq => by cases heq

theorem listKey_injective {kind kind' : EntityKind} (h : kind.listKey = kind'.listKey) :
    kind = kind' := by
  have hall : ∀ kind ∈ EntityKind.all, ∀ kind' ∈ EntityKind.all,
      kind.listKey = kind'.listKey → kind = kind' := by decide
  exact hall kind kind.mem_all kind' kind'.mem_all h

/-- The keys of a node besides those of its entities. -/
def nodeKeys : List String := ["classname", "qos_config", "action_servers", "action_clients"]

theorem listKey_ne (kind : EntityKind) : ∀ key ∈ nodeKeys, key ≠ kind.listKey := by
  have hall : ∀ kind ∈ EntityKind.all, ∀ key ∈ nodeKeys, key ≠ kind.listKey := by decide
  exact hall kind kind.mem_all

theorem present?_foldr_of_ne {kinds : List EntityKind} (h : ∀ kind ∈ kinds, key ≠ kind.listKey)
    (o : Members) :
    present? (kinds.foldr (fun kind => modifyObjects kind.listKey (f kind)) o) key =
      present? o key := by
  induction kinds with
  | nil => rfl
  | cons kind kinds ih =>
    rw [List.foldr_cons, modifyObjects,
      Fields.present?_modifyList_of_ne (h kind List.mem_cons_self)]
    exact ih fun kind' hkind' => h kind' (List.mem_cons_of_mem _ hkind')

theorem present?_modifyEntities_of_ne (h : ∀ kind : EntityKind, key ≠ kind.listKey)
    (o : Members) : present? (modifyEntities f o) key = present? o key :=
  present?_foldr_of_ne (fun kind _ => h kind) o

theorem present?_foldr_self {kinds : List EntityKind} (hkinds : kinds.Nodup) {kind : EntityKind}
    (hkind : kind ∈ kinds) (o : Members) :
    present? (kinds.foldr (fun kind => modifyObjects kind.listKey (f kind)) o) kind.listKey =
      present? (modifyObjects kind.listKey (f kind) o) kind.listKey := by
  induction kinds with
  | nil => cases hkind
  | cons first kinds ih =>
    obtain ⟨hfirst, hrest⟩ := List.nodup_cons.mp hkinds
    by_cases heq : kind = first
    · subst heq
      -- The later kinds have other lists.
      have hlater : ∀ kind' ∈ kinds, kind.listKey ≠ kind'.listKey := by
        intro kind' hkind' hkey
        rw [listKey_injective hkey] at hfirst
        exact hfirst hkind'
      rw [List.foldr_cons, modifyObjects, Fields.present?_modifyList_self,
        present?_foldr_of_ne hlater, Fields.present?_modifyList_self]
    · have hne : kind.listKey ≠ first.listKey := fun hkey => heq (listKey_injective hkey)
      rw [List.foldr_cons, modifyObjects, Fields.present?_modifyList_of_ne hne]
      exact ih hrest ((List.mem_cons.mp hkind).resolve_left heq)

theorem present?_modifyEntities_self (kind : EntityKind) (o : Members) :
    present? (modifyEntities f o) kind.listKey =
      present? (modifyObjects kind.listKey (f kind) o) kind.listKey :=
  present?_foldr_self (by decide) kind.mem_all o

end Changes

/-! ## Fields -/

section Fields
variable (h : present? o' key = present? o key)
include h

theorem mirrors_text : Mirrors quiet Eq (Fields.text o key) (Fields.text o' key) := by
  have hsame : Fields.text o' key = Fields.text o key := by
    simp only [Fields.text, Fields.require, h]
  rw [hsame]
  exact .of_silent (Fields.text_journal o key)

theorem mirrors_code (α : Type) [Coded α] :
    Mirrors quiet Eq (Fields.code α o key) (Fields.code α o' key) := by
  have hsame : Fields.code α o' key = Fields.code α o key := by
    simp only [Fields.code, Fields.integer, Fields.require, h]
  rw [hsame]
  exact .of_silent (Fields.code_journal o key)

theorem mirrors_natural : Mirrors quiet Eq (Fields.natural o key) (Fields.natural o' key) := by
  have hsame : Fields.natural o' key = Fields.natural o key := by
    simp only [Fields.natural, Fields.require, h]
  rw [hsame]
  exact .of_silent (Fields.natural_journal o key)

theorem mirrors_optionalText :
    Mirrors quiet Eq (Fields.optionalText o key) (Fields.optionalText o' key) := by
  have hsame : Fields.optionalText o' key = Fields.optionalText o key := by
    simp only [Fields.optionalText, h]
  rw [hsame]
  exact .of_silent (Fields.optionalText_journal o key)

theorem mirrors_readReference :
    Mirrors quiet Eq (readReference site o key) (readReference site o' key) := by
  refine (mirrors_optionalText h).bind_eq fun declared => ?_
  cases declared with
  | none => exact (Mirrors.note (by simp [Diagnostic.omitted])).bind_eq fun _ => .pure rfl
  | some raw =>
    exact (Mirrors.of_silent (requireFile_journal site key raw)).bind_eq fun _ => .pure rfl

end Fields

section Defaults
variable {v : Json} {default : String}

theorem declaredOr_of_some (h : present? o key = some v) :
    declaredOr o key default = Fields.asText key v := by
  rw [declaredOr, Fields.optionalText, h]
  exact (bind_map_left _ _ _).trans (bind_pure _)

theorem declaredOr_of_none (h : present? o key = none) :
    declaredOr o key default =
      note (.defaulted [.field key] default) >>= fun _ => pure default := by
  rw [declaredOr, Fields.optionalText, h]
  exact pure_bind _ _

theorem readDomain_of_some (h : present? o "domain_id" = some v) :
    readDomain o = Fields.asWord "domain_id" .natural32 uint32? v := by
  rw [readDomain, Fields.optionalNatural32, h]
  exact (bind_map_left _ _ _).trans (bind_pure _)

theorem readDomain_of_none (h : present? o "domain_id" = none) :
    readDomain o = note (.defaulted [.field "domain_id"] "0") >>= fun _ => pure 0 := by
  rw [readDomain, Fields.optionalNatural32, h]
  exact pure_bind _ _

/-- A warning about a default, beside the default itself or beside the same warning. -/
theorem mirrors_default {α : Type} {d : Diagnostic} {a : α} {x' : Outcome α}
    (hd : d.code = .fieldDefaulted)
    (hx : x' = if quiet then pure a else note d >>= fun _ => pure a) :
    Mirrors quiet Eq (note d >>= fun _ => pure a) x' := by
  rw [hx]
  cases quiet with
  | false => exact .of_stays (Journal.quieted_false _)
  | true =>
    refine ⟨.ok rfl rfl rfl, ?_⟩
    have hwarning : Journal.quieted true [.noted d] = [] := by
      simp [Journal.quieted, Entry.stays, hd]
    exact hwarning.symm

theorem mirrors_declaredOr
    (h : present? o' key = filled quiet (.string default) (present? o key)) :
    Mirrors quiet Eq (declaredOr o key default) (declaredOr o' key default) := by
  cases hkey : present? o key with
  | none =>
    rw [hkey] at h
    rw [declaredOr_of_none hkey]
    refine mirrors_default rfl ?_
    cases quiet with
    | false => exact declaredOr_of_none h
    | true => exact declaredOr_of_some h
  | some v =>
    have hsame : present? o' key = some v := by
      rw [h, hkey]
      cases quiet <;> rfl
    rw [declaredOr_of_some hkey, declaredOr_of_some hsame]
    exact .of_silent (Fields.asText_journal key v)

theorem mirrors_readDomain
    (h : present? o' "domain_id" = filled quiet (.int 0) (present? o "domain_id")) :
    Mirrors quiet Eq (readDomain o) (readDomain o') := by
  cases hkey : present? o "domain_id" with
  | none =>
    rw [hkey] at h
    rw [readDomain_of_none hkey]
    refine mirrors_default rfl ?_
    cases quiet with
    | false => exact readDomain_of_none h
    | true => exact readDomain_of_some h
  | some v =>
    have hsame : present? o' "domain_id" = some v := by
      rw [h, hkey]
      cases quiet <;> rfl
    rw [readDomain_of_some hkey, readDomain_of_some hsame]
    exact .of_silent (Fields.asWord_journal _ _ _ v)

theorem mirrors_register (key name : String) :
    Mirrors quiet Eq (register key name) (register key name) := by
  unfold register
  split
  · exact .log _
  · exact .fail _

theorem mirrors_readSymbol
    (h : present? o' key = filled quiet (.string default) (present? o key)) :
    Mirrors quiet Eq (readSymbol o key default) (readSymbol o' key default) := by
  refine (mirrors_declaredOr h).bind_eq fun name => ?_
  exact (mirrors_register key name).bind_eq fun _ => .pure rfl

end Defaults

/-! ## Lists -/

section Lists
variable {R : Nat → Members → Members → Prop}

theorem mirrors_asObject {S : Members → Members → Prop} {v v' : Json} (h : ObjectAlike S v v') :
    Mirrors quiet S (asObject v) (asObject v') := by
  cases h with
  | object related => exact .pure related
  | other noObject =>
    cases v with
    | object o => exact absurd rfl (noObject o)
    | _ => exact .fail _

theorem mirrors_asList {v v' : Json} (h : ListAlike R (some v) (some v')) :
    Mirrors quiet (Placewise fun k => ObjectAlike (R k)) (Fields.asList key v)
      (Fields.asList key v') := by
  cases h with
  | list related => exact .pure related
  | other noList =>
    cases v with
    | list items => exact absurd rfl (noList items)
    | _ => exact .fail _

theorem mirrors_list (h : ListAlike R (present? o key) (present? o' key)) :
    Mirrors quiet (Placewise fun k => ObjectAlike (R k)) (Fields.list o key)
      (Fields.list o' key) := by
  have hrequire : Mirrors quiet (fun v v' => ListAlike R (some v) (some v'))
      (Fields.require o key) (Fields.require o' key) := by
    unfold Fields.require
    generalize present? o key = v, present? o' key = v' at h
    cases h with
    | list related => exact .pure (.list related)
    | other noList =>
      cases v with
      | none => exact .fail _
      | some v => exact .pure (.other noList)
  exact hrequire.bind fun _ _ => mirrors_asList

theorem mirrors_optionalList (h : ListAlike R (present? o key) (present? o' key)) :
    Mirrors quiet (Placewise fun k => ObjectAlike (R k)) (Fields.optionalList o key)
      (Fields.optionalList o' key) := by
  unfold Fields.optionalList
  generalize present? o key = v, present? o' key = v' at h
  cases h with
  | list related => exact mirrors_asList (.list related)
  | other noList =>
    cases v with
    | none => exact .pure Placewise.nil
    | some v => exact mirrors_asList (.other noList)

theorem mirrors_readEntities {kind : EntityKind} {f f' : Nat → Members → Outcome β}
    (h : ListAlike R (present? o kind.listKey) (present? o' kind.listKey))
    (hf : ∀ k inner inner', R k inner inner' → Mirrors quiet Eq (f k inner) (f' k inner')) :
    Mirrors quiet Eq (readEntities o kind f) (readEntities o' kind f') := by
  refine (mirrors_optionalList h).bind fun items items' hitems => ?_
  have hobjects : Mirrors quiet (Placewise R)
      (Outcome.elements kind.listKey items fun _ v => asObject v)
      (Outcome.elements kind.listKey items' fun _ v => asObject v) :=
    .elements hitems fun _ _ _ => mirrors_asObject
  exact hobjects.bind fun objects objects' halike => .elements_eq halike hf

end Lists

/-! ## Entities -/

theorem mirrors_readTimer {index : Nat} (h : EntityAlike quiet .timer index o o') :
    Mirrors quiet Eq (readTimer index o) (readTimer index o') := by
  refine (mirrors_readSymbol h.id).bind_eq fun id => ?_
  refine (mirrors_code (h.required "type" (by decide)) TimerClock).bind_eq fun clock => ?_
  refine (mirrors_natural (h.required "period" (by decide))).bind_eq fun period => ?_
  exact (mirrors_readSymbol h.function).bind_eq fun callback => .pure rfl

theorem mirrors_readEndpoint {kind : EndpointKind} {index : Nat}
    (h : EntityAlike quiet (.endpoint kind) index o o') :
    Mirrors quiet Eq (readEndpoint site kind index o) (readEndpoint site kind index o') := by
  have hrequired : ∀ key ∈ [kind.channelKey, "message", "msg_type"],
      present? o' key = present? o key := h.required
  have hmessage : Mirrors quiet Eq (readMessage site o) (readMessage site o') := by
    refine (mirrors_text (hrequired "message" (by simp))).bind_eq fun name => ?_
    refine (mirrors_code (hrequired "msg_type" (by simp)) MessageFormat).bind_eq fun format => ?_
    refine (mirrors_readReference (h.references "msg_src" ?_)).bind_eq fun source => .pure rfl
    exact List.mem_singleton.mpr rfl
  refine (mirrors_readSymbol h.id).bind_eq fun id => ?_
  refine (mirrors_text (hrequired kind.channelKey (by simp))).bind_eq fun channel => ?_
  refine hmessage.bind_eq fun message => ?_
  exact (mirrors_readSymbol h.function).bind_eq fun function => .pure rfl

/-! ## Nodes -/

theorem mirrors_refuseItems {feature : String}
    (h : UnusedAlike (present? o key) (present? o' key)) :
    Mirrors quiet Eq (refuseItems o key feature) (refuseItems o' key feature) := by
  unfold refuseItems Fields.optionalList
  generalize present? o key = v, present? o' key = v' at h
  cases h with
  | used => exact .fail _
  | same =>
    refine Mirrors.bind_eq (.of_silent ?_) fun items => ?_
    · cases v with
      | none => rfl
      | some v => exact Fields.asList_journal key v
    · cases items with
      | nil => exact .pure rfl
      | cons item rest => exact .fail _

theorem mirrors_readNode {v v' : Json} (h : ObjectAlike (NodeAlike quiet) v v') :
    Mirrors quiet Eq (readNode site v) (readNode site v') := by
  refine (mirrors_asObject h).bind fun o o' h => ?_
  have hclass : Mirrors quiet Eq (readClassname o) (readClassname o') := by
    refine (mirrors_text h.classname).bind_eq fun name => ?_
    exact (mirrors_register "classname" name).bind_eq fun _ => .pure rfl
  have htimers : Mirrors quiet Eq (readEntities o .timer readTimer)
      (readEntities o' .timer readTimer) :=
    mirrors_readEntities (h.entities .timer) fun _ _ _ => mirrors_readTimer
  have hendpoints : ∀ kind : EndpointKind,
      Mirrors quiet Eq (readEndpoints site o kind) (readEndpoints site o' kind) :=
    fun kind => mirrors_readEntities (h.entities (.endpoint kind)) fun _ _ _ => mirrors_readEndpoint
  refine hclass.bind_eq fun classname => ?_
  refine (mirrors_readReference h.qosConfig).bind_eq fun qosConfig => ?_
  refine htimers.bind_eq fun timers => ?_
  refine (hendpoints .topicPub).bind_eq fun topicPubs => ?_
  refine (hendpoints .topicSub).bind_eq fun topicSubs => ?_
  refine (hendpoints .serviceServer).bind_eq fun serviceServers => ?_
  refine (hendpoints .serviceClient).bind_eq fun serviceClients => ?_
  refine (mirrors_refuseItems h.actionServers).bind_eq fun _ => ?_
  exact (mirrors_refuseItems h.actionClients).bind_eq fun _ => .pure rfl

/-! ## Apps and documents -/

theorem mirrors_readModule {v v' : Json} (h : ObjectAlike (fun _ _ => True) v v') :
    Mirrors quiet Eq (readModule v) (readModule v') := by
  refine (mirrors_asObject h).bind fun _ _ _ => ?_
  exact (Mirrors.note (by simp [Diagnostic.placeholder])).bind_eq fun _ => .pure rfl

theorem mirrors_readNamespace (h : present? o' "namespace" = present? o "namespace") :
    Mirrors quiet Eq (readNamespace o) (readNamespace o') := by
  refine (mirrors_text h).bind_eq fun name => ?_
  split
  · exact .pure rfl
  · exact .fail _

theorem mirrors_readApp {v v' : Json} (h : ObjectAlike (AppAlike quiet) v v') :
    Mirrors quiet Eq (readApp site v) (readApp site v') := by
  refine (mirrors_asObject h).bind fun o o' h => ?_
  have hnodes : Mirrors quiet Eq (readNodes site o) (readNodes site o') :=
    (mirrors_list h.nodes).bind fun items items' hitems =>
      .elements_eq hitems fun _ _ _ => mirrors_readNode
  have hmodules : Mirrors quiet Eq (readModules o) (readModules o') :=
    (mirrors_optionalList h.modules).bind fun items items' hitems =>
      .elements_eq hitems fun _ _ _ => mirrors_readModule
  refine (mirrors_readNamespace h.name).bind_eq fun name => ?_
  refine (mirrors_readDomain h.domainId).bind_eq fun domainId => ?_
  refine (mirrors_code h.protocol Protocol).bind_eq fun protocol => ?_
  refine (mirrors_readReference h.schedulerConfig).bind_eq fun schedulerConfig => ?_
  refine hnodes.listen.bind fun p p' hp => ?_
  -- The check of the names sees the journal of the nodes, but only the names in it.
  obtain ⟨nodes, journal⟩ := p
  obtain ⟨nodes', journal'⟩ := p'
  obtain ⟨rfl, hnames⟩ : nodes = nodes' ∧ journal.registered = journal'.registered := hp
  refine hmodules.bind_eq fun modules => ?_
  simp only [hnames]
  refine (Mirrors.of_silent rfl).bind_eq fun _ => ?_
  exact (Mirrors.log _).bind_eq fun _ => .pure rfl

theorem mirrors_ofText (text : String) :
    Mirrors quiet Eq (Version.ofText text) (Version.ofText text) := by
  unfold Version.ofText
  split
  · exact .fail _
  · refine (Mirrors.log _).bind_eq fun _ => ?_
    split
    · exact (Mirrors.note (by simp [Version.discarded])).bind_eq fun _ => .pure rfl
    · exact .pure rfl

theorem mirrors_readDocument {v v' : Json} (h : ObjectAlike (RootAlike quiet) v v') :
    Mirrors quiet Eq (readDocument site v) (readDocument site v') := by
  refine (mirrors_asObject h).bind fun o o' h => ?_
  have hversion : Mirrors quiet Eq (readVersion o) (readVersion o') :=
    (mirrors_text h.version).bind_eq fun text => (mirrors_ofText text).under _
  have happs : Mirrors quiet Eq (readApps site o) (readApps site o') :=
    (mirrors_list h.apps).bind fun items items' hitems =>
      .elements_eq hitems fun _ _ _ => mirrors_readApp
  refine hversion.bind_eq fun version => ?_
  refine (mirrors_code h.platform Platform).bind_eq fun platform => ?_
  refine (mirrors_code h.language Language).bind_eq fun language => ?_
  refine happs.bind_eq fun apps => ?_
  exact (Mirrors.log _).bind_eq fun _ => .pure rfl

end AppConfig.Document

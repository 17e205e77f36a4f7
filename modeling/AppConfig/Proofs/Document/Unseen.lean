import Mathlib.Data.List.Permutation
import AppConfig.Proofs.Document.Alike
import AppConfig.Proofs.Document.Reading

/-! # What is not seen of a document

* `knownKeys`: the keys of an object of a level; `known`: its members with such a key and a value.
* `seen`: a document with nothing else in its objects, with empty modules, and with one element in
  the place of those of a list that is not supported.
* `readDocument_seen`: a document without repeated keys is read as what is seen of it.
* `readDocument_eq_of_seen_eq`: documents of which the same is seen are read alike.
-/

namespace AppConfig.Document
set_option autoImplicit false
open Fields (present?)

variable {o : Members}

/-! ## What is seen -/

def knownKeys : Level → List String
  | .root => ["wolfes_version", "platform", "lang", "apps"]
  | .app => ["namespace", "domain_id", "protocol_type", "scheduler_config", "nodes", "modules"]
  | .node => ["classname", "qos_config", "timers", "topic_pubs", "topic_subs", "service_servers",
      "service_clients", "action_servers", "action_clients"]
  | .module => []
  | .entity .timer => ["identifier", "type", "period", "cb_function"]
  | .entity (.endpoint kind) => ["identifier", kind.channelKey, "message", "msg_type", "msg_src",
      (EntityKind.endpoint kind).functionKey]

/-- The members whose keys are those of the level and whose values are not `null`. -/
def known (level : Level) (o : Members) : Members :=
  o.filter fun m => (knownKeys level).contains m.1 && !m.2.isNull

/-- Of the elements of a list that is not supported, whether there are any. -/
def seenUnused : List Json → List Json
  | [] => []
  | _ :: _ => [.null]

def seenNode (o : Members) : Members :=
  Members.modifyList "action_clients" seenUnused
    (Members.modifyList "action_servers" seenUnused
      (modifyEntities (fun kind _ => known (.entity kind)) (known .node o)))

def seenApp (o : Members) : Members :=
  modifyObjects "modules" (fun _ => known .module)
    (modifyObjects "nodes" (fun _ => seenNode) (known .app o))

def seen : Json → Json :=
  Json.mapObject fun o => modifyObjects "apps" (fun _ => seenApp) (known .root o)

/-! ## Objects -/

section Objects
variable {key : String} {items : List Json} {v : Json} (ho : (Json.object o).HasDistinctKeys)
include ho

theorem hasDistinctKeys_item (hkey : present? o key = some (.list items)) (hv : v ∈ items) :
    v.HasDistinctKeys := by
  have hmem : (key, Json.list items) ∈ o := Members.mem_of_get? (Fields.present?_eq_some.mp hkey).1
  cases ho with
  | object _ hvalues =>
    cases hvalues _ hmem with
    | list hitems => exact hitems v hv

theorem present?_known {level : Level} (hkey : key ∈ knownKeys level) :
    present? (known level o) key = present? o key := by
  cases ho with
  | object hnodup =>
    refine Fields.present?_filter hnodup fun v hv => ?_
    simp [hkey, hv]

theorem listAlike_seen {level : Level} {R : Nat → Members → Members → Prop}
    {g : Nat → Members → Members} (hkey : key ∈ knownKeys level)
    (h : ∀ k inner, (Json.object inner).HasDistinctKeys → R k inner (g k inner)) :
    ListAlike R (present? o key) (present? (modifyObjects key g (known level o)) key) := by
  have hknown := present?_known ho hkey
  have hlist : ListAlike R (present? (known level o) key)
      (present? (modifyObjects key g (known level o)) key) := by
    refine listAlike_modifyObjects fun items k inner hitems hinner => h k inner ?_
    exact hasDistinctKeys_item ho (hknown ▸ hitems) hinner
  rwa [hknown] at hlist

end Objects

theorem entityAlike_known (kind : EntityKind) (index : Nat)
    (ho : (Json.object o).HasDistinctKeys) :
    EntityAlike false kind index o (known (.entity kind) o) := by
  have hknown : ∀ key ∈ requiredKeys (.entity kind) ++ omittedKeys (.entity kind) ++
      defaultedKeys (.entity kind), key ∈ knownKeys (.entity kind) := by
    cases kind with
    | timer => decide
    | endpoint kind => cases kind <;> decide
  refine ⟨fun key hkey => ?_, fun key hkey => ?_, ?_, ?_⟩
  · exact present?_known ho (hknown key (by simp [hkey]))
  · exact present?_known ho (hknown key (by simp [hkey]))
  · exact present?_known ho (hknown _ (by simp [defaultedKeys]))
  · exact present?_known ho (hknown _ (by simp [defaultedKeys]))

theorem unusedAlike_seenUnused (v : Option Json) :
    UnusedAlike v (v.map (Json.mapList seenUnused)) := by
  match v with
  | some (.list (_ :: _)) => exact .used
  | some (.list []) | none | some .null | some (.bool _) | some (.int _) | some (.float _)
  | some (.string _) | some (.object _) => exact .same

theorem nodeAlike_seenNode (ho : (Json.object o).HasDistinctKeys) :
    NodeAlike false o (seenNode o) := by
  have hplain : ∀ key ∈ nodeKeys,
      present? (modifyEntities (fun kind _ => known (.entity kind)) (known .node o)) key =
        present? o key := by
    intro key hkey
    have hall : ∀ key ∈ nodeKeys, key ∈ knownKeys .node := by decide
    rw [present?_modifyEntities_of_ne fun kind => listKey_ne kind key hkey,
      present?_known ho (hall key hkey)]
  refine ⟨?_, ?_, fun kind => ?_, ?_, ?_⟩
  · rw [seenNode, Fields.present?_modifyList_of_ne (by decide),
      Fields.present?_modifyList_of_ne (by decide), hplain _ (by decide)]
  · rw [seenNode, Fields.present?_modifyList_of_ne (by decide),
      Fields.present?_modifyList_of_ne (by decide), hplain _ (by decide)]
  · rw [seenNode, Fields.present?_modifyList_of_ne (listKey_ne kind _ (by decide)).symm,
      Fields.present?_modifyList_of_ne (listKey_ne kind _ (by decide)).symm,
      present?_modifyEntities_self]
    have hkey : kind.listKey ∈ knownKeys .node := by
      have hall : ∀ kind ∈ EntityKind.all, kind.listKey ∈ knownKeys .node := by decide
      exact hall kind kind.mem_all
    exact listAlike_seen ho hkey fun index inner => entityAlike_known kind index
  · rw [seenNode, Fields.present?_modifyList_of_ne (by decide),
      Fields.present?_modifyList_self, hplain _ (by decide)]
    exact unusedAlike_seenUnused _
  · rw [seenNode, Fields.present?_modifyList_self, Fields.present?_modifyList_of_ne (by decide),
      hplain _ (by decide)]
    exact unusedAlike_seenUnused _

theorem appAlike_seenApp (ho : (Json.object o).HasDistinctKeys) : AppAlike false o (seenApp o) := by
  have hplain : ∀ key ∈ ["namespace", "domain_id", "protocol_type", "scheduler_config"],
      present? (seenApp o) key = present? o key := by
    intro key hkey
    have hall : ∀ key ∈ ["namespace", "domain_id", "protocol_type", "scheduler_config"],
        key ∈ knownKeys .app ∧ key ≠ "nodes" ∧ key ≠ "modules" := by decide
    obtain ⟨hknown, hnodes, hmodules⟩ := hall key hkey
    rw [seenApp, modifyObjects, modifyObjects, Fields.present?_modifyList_of_ne hmodules,
      Fields.present?_modifyList_of_ne hnodes, present?_known ho hknown]
  refine ⟨hplain _ (by decide), hplain _ (by decide), hplain _ (by decide), hplain _ (by decide),
    ?_, ?_⟩
  · rw [seenApp, modifyObjects, Fields.present?_modifyList_of_ne (by decide)]
    exact listAlike_seen ho (by decide) fun _ inner => nodeAlike_seenNode
  · have hmodules : present? (seenApp o) "modules" =
        present? (modifyObjects "modules" (fun _ => known .module) (known .app o)) "modules" := by
      simp only [seenApp, modifyObjects, Fields.present?_modifyList_self,
        Fields.present?_modifyList_of_ne (show "modules" ≠ "nodes" by decide)]
    rw [hmodules]
    exact listAlike_seen ho (by decide) fun _ _ _ => trivial

theorem rootAlike_seen (ho : (Json.object o).HasDistinctKeys) :
    RootAlike false o (modifyObjects "apps" (fun _ => seenApp) (known .root o)) := by
  have hplain : ∀ key ∈ ["wolfes_version", "platform", "lang"],
      present? (modifyObjects "apps" (fun _ => seenApp) (known .root o)) key = present? o key := by
    intro key hkey
    have hall : ∀ key ∈ ["wolfes_version", "platform", "lang"],
        key ∈ knownKeys .root ∧ key ≠ "apps" := by decide
    obtain ⟨hknown, happs⟩ := hall key hkey
    rw [modifyObjects, Fields.present?_modifyList_of_ne happs, present?_known ho hknown]
  refine ⟨hplain _ (by decide), hplain _ (by decide), hplain _ (by decide), ?_⟩
  exact listAlike_seen ho (by decide) fun _ inner => appAlike_seenApp

/-! ## Documents -/

theorem readDocument_seen (site : Site) {doc : Json} (h : doc.HasDistinctKeys) :
    readDocument site (seen doc) = readDocument site doc := by
  have halike : ObjectAlike (RootAlike false) doc (seen doc) :=
    objectAlike_mapObject fun o ho => rootAlike_seen (ho ▸ h)
  exact (mirrors_readDocument halike).eq

/-- Documents of which the same is seen are read alike. -/
theorem readDocument_eq_of_seen_eq {site : Site} {doc doc' : Json}
    (h : seen doc.canonical = seen doc'.canonical) :
    readDocument site doc.canonical = readDocument site doc'.canonical := by
  rw [← readDocument_seen site (Json.hasDistinctKeys_canonical doc), h,
    readDocument_seen site (Json.hasDistinctKeys_canonical doc')]

/-! ## A small document with more in it

What it has and the small document has not is a comment, a `null` or the contents of a module. -/

def noisyTimer : Members := ("cb_function", .null) :: ("unit", .string "ms") :: smallTimer

def noisyNode : Members :=
  [("action_servers", .null), ("classname", .string "Drive"), ("comment", .list [.null]),
   ("timers", .list [.object noisyTimer]), ("topic_pubs", .list [.object smallPublisher])]

def noisyApp : Members :=
  [("domain_id", .null), ("namespace", .string "robot"), ("protocol_type", .int 2),
   ("nodes", .list [.object noisyNode]), ("modules", .list [.object [("kind", .int 3)]])]

def noisyDocument : Json :=
  .object [("wolfes_version", .string "1.0.0"), ("platform", .int 0), ("lang", .int 2),
    ("apps", .list [.object noisyApp]), ("custom_msgs", .list [])]

theorem seen_noisyDocument : seen noisyDocument.canonical = seen smallDocument.canonical := by
  cbv

theorem readDocument_noisyDocument : readDocument smallSite noisyDocument.canonical =
    readDocument smallSite smallDocument.canonical :=
  readDocument_eq_of_seen_eq seen_noisyDocument

end AppConfig.Document

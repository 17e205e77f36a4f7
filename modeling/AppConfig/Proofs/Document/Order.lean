import AppConfig.Proofs.Document.Alike
import AppConfig.Proofs.Document.Refusals
import Mathlib.Data.List.SplitLengths

/-! # The order of nodes

* `reorder`: the items of a list in another order; `App.reorderNodes`, `Document.reorderNodes`: an
  app of a plan, and a document, with the nodes of an app in another order.
* `NodesPermuted`, `AppsPermuted`: objects that differ in the order of nodes. The one is accepted,
  or refused for some names, when the other is.
* `IsPlan.reorderNodes`: a document with its nodes in another order describes the plan with its
  nodes in that order.
* `order_of_readDocument`: the order of nodes does not decide what becomes of a document.
-/

namespace AppConfig
set_option autoImplicit false

variable {α β : Type} {order : List Nat}

/-- The items at the places of a list of places. -/
def reorder (order : List Nat) (items : List α) : List α := order.filterMap fun k => items[k]?

/-- The names recorded with an app, cut where one node ends and the next begins. -/
def App.blocks (a : App) : List (List String) :=
  (a.nodes.map fun n => n.names.length).splitLengths a.identifiers

def App.reorderNodes (order : List Nat) (a : App) : App :=
  { a with nodes := reorder order a.nodes, identifiers := (reorder order a.blocks).flatten }

def Plan.reorderNodes (i : Nat) (order : List Nat) (p : Plan) : Plan :=
  { p with apps := p.apps.modify i (App.reorderNodes order) }

/-- The document with the nodes of the app at the index in another order. -/
def Document.reorderNodes (i : Nat) (order : List Nat) : Json → Json :=
  Json.mapObject (Members.modifyList "apps" fun apps =>
    apps.modify i (Json.mapObject (Members.modifyList "nodes" (reorder order))))

/-! ## Lists in another order -/

theorem reorder_map (f : α → β) (order : List Nat) (items : List α) :
    reorder order (items.map f) = (reorder order items).map f := by
  simp only [reorder, List.getElem?_map, List.map_filterMap]

theorem reorder_range (items : List α) : reorder (List.range items.length) items = items := by
  have hmap : (List.range items.length).map (fun k => items[k]?) = items.map some := by
    apply List.ext_getElem (by simp)
    intro k hk hk'
    rw [List.length_map] at hk'
    simp [hk']
  calc
    reorder (List.range items.length) items
      = ((List.range items.length).map fun k => items[k]?).filterMap id := by
        rw [List.filterMap_map]
        rfl
    _ = (items.map some).filterMap id := by rw [hmap]
    _ = items := by simp

theorem reorder_perm {items : List α} (h : order.Perm (List.range items.length)) :
    (reorder order items).Perm items := by
  have hperm := h.filterMap fun k => items[k]?
  rwa [← reorder, ← reorder, reorder_range] at hperm

theorem splitLengths_flatMap (f : α → List β) (items : List α) :
    (items.map fun a => (f a).length).splitLengths (items.flatMap f) = items.map f := by
  induction items with
  | nil => rfl
  | cons a items ih => simp [ih]

namespace Placewise

theorem reorder {R : α → β → Prop} {items : List α} {parts : List β} (order : List Nat)
    (h : Placewise (fun _ => R) items parts) :
    Placewise (fun _ => R) (reorder order items) (reorder order parts) := by
  induction order with
  | nil => exact .nil
  | cons k order ih =>
    rw [AppConfig.reorder, AppConfig.reorder, List.filterMap_cons, List.filterMap_cons]
    cases hk : items[k]? with
    | none =>
      have hk' : parts[k]? = none := by
        rw [List.getElem?_eq_none_iff] at hk ⊢
        rwa [← h.length_eq]
      rw [hk']
      exact ih
    | some a =>
      obtain ⟨b, hb, hR⟩ := h.exists_part hk
      rw [hb]
      exact cons_iff.mpr ⟨b, _, rfl, hR, ih⟩

theorem modify {R : Nat → α → β → Prop} {items : List α} {parts : List β} {i : Nat} {f : α → α}
    {g : β → β} (h : Placewise R items parts)
    (hi : ∀ a b, items[i]? = some a → parts[i]? = some b → R i (f a) (g b)) :
    Placewise R (items.modify i f) (parts.modify i g) := by
  refine ⟨by simp [h.length_eq], fun k a b ha hb => ?_⟩
  rw [List.getElem?_modify] at ha hb
  obtain ⟨a, hitem, rfl⟩ := Option.map_eq_some_iff.mp ha
  obtain ⟨b, hpart, rfl⟩ := Option.map_eq_some_iff.mp hb
  by_cases hik : i = k
  · subst hik
    rw [if_pos rfl, if_pos rfl]
    exact hi a b hitem hpart
  · rw [if_neg hik, if_neg hik]
    exact h.related k a b hitem hpart

end Placewise

namespace Document
open Fields (present? objectsAt membersOf)

variable {site : Site} {o o' : Members} {key : String}

/-! ## Objects that differ in the order of nodes -/

/-- Two lists of the same items, or twice the same. -/
inductive PermAlike : Option Json → Option Json → Prop
  | list {items items' : List Json} (perm : items.Perm items') :
    PermAlike (some (.list items)) (some (.list items'))
  | same (v : Option Json) : PermAlike v v

structure NodesPermuted (o o' : Members) : Prop where
  same : ∀ key, key ≠ "nodes" → present? o' key = present? o key
  nodes : PermAlike (present? o "nodes") (present? o' "nodes")

structure AppsPermuted (o o' : Members) : Prop where
  same : ∀ key, key ≠ "apps" → present? o' key = present? o key
  apps : ListAlike (fun _ => NodesPermuted) (present? o "apps") (present? o' "apps")

theorem PermAlike.symm {v v' : Option Json} (h : PermAlike v v') : PermAlike v' v := by
  cases h with
  | list perm => exact .list perm.symm
  | same => exact .same v

theorem NodesPermuted.refl (o : Members) : NodesPermuted o o := ⟨fun _ _ => rfl, .same _⟩

theorem NodesPermuted.symm (h : NodesPermuted o o') : NodesPermuted o' o :=
  ⟨fun key hkey => (h.same key hkey).symm, h.nodes.symm⟩

theorem ObjectAlike.symm {R : Members → Members → Prop} (hR : ∀ o o', R o o' → R o' o)
    {v v' : Json} (h : ObjectAlike R v v') : ObjectAlike R v' v := by
  cases h with
  | object related => exact .object (hR _ _ related)
  | other noObject => exact .other noObject

theorem AppsPermuted.symm (h : AppsPermuted o o') : AppsPermuted o' o := by
  refine ⟨fun key hkey => (h.same key hkey).symm, ?_⟩
  have happs := h.apps
  generalize present? o "apps" = v, present? o' "apps" = v' at happs
  cases happs with
  | list related =>
    refine .list ⟨related.length_eq.symm, fun k x x' hx hx' => ?_⟩
    exact (related.related k x' x hx' hx).symm fun _ _ => NodesPermuted.symm
  | other noList => exact .other noList

theorem PermAlike.required {P : Members → Prop} (h : PermAlike (present? o key) (present? o' key))
    (ho : Required o key (IsListOf P)) : Required o' key (IsListOf P) := by
  obtain ⟨v, hv, hlist⟩ := ho
  rw [hv] at h
  generalize hv' : present? o' key = v' at h
  cases h with
  | list perm =>
    obtain ⟨items, heq, hitems⟩ := hlist
    obtain rfl := Json.list.inj heq
    exact ⟨_, hv', _, rfl, fun item hitem => hitems item (perm.mem_iff.mpr hitem)⟩
  | same => exact ⟨v, hv', hlist⟩

theorem PermAlike.objectsAt (h : PermAlike (present? o key) (present? o' key)) :
    (objectsAt o key).Perm (objectsAt o' key) := by
  unfold Fields.objectsAt
  generalize present? o key = v, present? o' key = v' at h
  cases h with
  | list perm => exact perm.map membersOf
  | same => exact .refl _

theorem NodesPermuted.appNames (h : NodesPermuted o o') : (appNames o).Perm (appNames o') :=
  h.nodes.objectsAt.flatMap_right nodeNames

theorem NodesPermuted.acceptedApp (h : NodesPermuted o o') (ho : AcceptedApp site o) :
    AcceptedApp site o' := by
  have hrequired : ∀ {key P}, key ≠ "nodes" → Required o key P → Required o' key P := by
    intro key P hkey hP
    rwa [Required, h.same key hkey]
  have hoptional : ∀ {key P}, key ≠ "nodes" → Optional o key P → Optional o' key P := by
    intro key P hkey hP
    rwa [Optional, h.same key hkey]
  exact ⟨hrequired (by decide) ho.name, hoptional (by decide) ho.domainId,
    hrequired (by decide) ho.protocol, hoptional (by decide) ho.schedulerConfig,
    h.nodes.required ho.nodes, hoptional (by decide) ho.modules⟩

theorem NodesPermuted.wellFormedApp (h : NodesPermuted o o') (ho : WellFormedApp site o) :
    WellFormedApp site o' := by
  obtain ⟨haccepted, hdistinct⟩ := wellFormedApp_iff.mp ho
  exact wellFormedApp_iff.mpr ⟨h.acceptedApp haccepted, h.appNames.nodup_iff.mp hdistinct⟩

theorem exists_app_of_permuted {x x' : Json} (h : ObjectAlike NodesPermuted x x')
    (hx : ∃ a, (readApp site x).result = .ok a) : ∃ a, (readApp site x').result = .ok a := by
  obtain ⟨a, ha⟩ := hx
  cases h with
  | object related =>
    obtain ⟨app, heq, happ⟩ := readApp_result_ok.mp ha
    obtain rfl := Json.object.inj heq
    obtain ⟨a', ha'⟩ := exists_app.mpr (related.wellFormedApp (exists_app.mp ⟨a, happ⟩))
    exact ⟨a', readApp_result_ok.mpr ⟨_, rfl, ha'⟩⟩
  | other => exact ⟨a, ha⟩

/-! ## Documents that differ in the order of nodes -/

theorem AppsPermuted.hasRoot (h : AppsPermuted o o') (ho : HasRoot o) : HasRoot o' := by
  have hrequired : ∀ {key P}, key ≠ "apps" → Required o key P → Required o' key P := by
    intro key P hkey hP
    rwa [Required, h.same key hkey]
  exact ⟨hrequired (by decide) ho.version, hrequired (by decide) ho.platform,
    hrequired (by decide) ho.language⟩

theorem AppsPermuted.exists_apps (h : AppsPermuted o o') {apps : List Json}
    (happs : present? o "apps" = some (.list apps)) : ∃ apps',
      present? o' "apps" = some (.list apps') ∧
        Placewise (fun _ => ObjectAlike NodesPermuted) apps apps' := by
  have hlist := h.apps
  rw [happs] at hlist
  generalize hv : present? o' "apps" = v' at hlist
  cases hlist with
  | list related => exact ⟨_, rfl, related⟩
  | other noList => exact absurd rfl (noList apps)

theorem AppsPermuted.exists_plan (h : AppsPermuted o o')
    (ho : ∃ plan, (readDocument site (.object o)).result = .ok plan) :
    ∃ plan, (readDocument site (.object o')).result = .ok plan := by
  obtain ⟨plan, hplan⟩ := ho
  obtain ⟨_, heq, hmade⟩ := readDocument_result_ok.mp hplan
  obtain rfl := Json.object.inj heq
  have hformed : WellFormedRoot site o := Document.exists_plan.mp ⟨plan, hmade⟩
  have hroot : HasRoot o' := h.hasRoot ⟨hformed.version, hformed.platform, hformed.language⟩
  obtain ⟨_, happs, apps, rfl, hgood⟩ := hformed.apps
  obtain ⟨apps', happs', halike⟩ := h.exists_apps happs
  have hgood' : ∀ x' ∈ apps', ∃ app', x' = .object app' ∧ WellFormedApp site app' := by
    intro x' hx'
    obtain ⟨k, x, hx, hxx'⟩ := halike.exists_item hx'
    obtain ⟨app, rfl, happ⟩ := hgood x (List.mem_of_getElem? hx)
    cases hxx' with
    | object related => exact ⟨_, rfl, related.wellFormedApp happ⟩
    | other noObject => exact absurd rfl (noObject app)
  obtain ⟨plan', hplan'⟩ := Document.exists_plan.mpr
    ⟨hroot.version, hroot.platform, hroot.language, _, happs', apps', rfl, hgood'⟩
  exact ⟨plan', readDocument_result_ok.mpr ⟨o', rfl, hplan'⟩⟩

theorem AppsPermuted.isRefusedAt {i : Nat} {names : List String} (h : AppsPermuted o o')
    (ho : IsRefusedAt site (.object o) i names) : IsRefusedAt site (.object o') i names := by
  obtain ⟨_, apps, app, heq, hroot, happs, hbefore, hx, haccepted, hrepeated, hnames, hmem⟩ := ho
  obtain rfl := Json.object.inj heq
  obtain ⟨apps', happs', halike⟩ := h.exists_apps happs
  obtain ⟨x', hx', hxx'⟩ := halike.exists_part hx
  cases hxx' with
  | other noObject => exact absurd rfl (noObject app)
  | @object _ app' related =>
    refine ⟨o', apps', app', rfl, h.hasRoot hroot, happs', ?_, hx', related.acceptedApp haccepted,
      ?_, hnames, fun name => ?_⟩
    · rw [forall_mem_take] at hbefore ⊢
      intro k y' hk hy'
      obtain ⟨y, hy, hyy'⟩ := halike.exists_item_at hy'
      exact exists_app_of_permuted hyy' (hbefore k y hk hy)
    · rwa [← related.appNames.nodup_iff]
    · rw [hmem, related.appNames.count_eq]

theorem appsPermuted_iff (site : Site) {doc doc' : Json} (h : ObjectAlike AppsPermuted doc doc') :
    ((∃ plan, (readDocument site doc).result = .ok plan) ↔
      ∃ plan, (readDocument site doc').result = .ok plan) ∧
    ∀ i names, IsRefusedAt site doc i names ↔ IsRefusedAt site doc' i names := by
  cases h with
  | object related =>
    exact ⟨⟨related.exists_plan, related.symm.exists_plan⟩,
      fun i names => ⟨related.isRefusedAt, related.symm.isRefusedAt⟩⟩
  | other => exact ⟨Iff.rfl, fun _ _ => Iff.rfl⟩

/-! ## Documents with reordered nodes -/

section Reordered
variable {i : Nat}

/-- The order lists each place of a list of nodes once. -/
def IsOrder (doc : Json) (i : Nat) (order : List Nat) : Prop :=
  ∀ app, (appObjects doc)[i]? = some app → order.Perm (List.range (objectsAt app "nodes").length)

theorem objectsAt_of_list {items : List Json} (h : present? o key = some (.list items)) :
    objectsAt o key = items.map membersOf := by
  rw [Fields.objectsAt, h]

theorem nodesPermuted_reorder (h : order.Perm (List.range (objectsAt o "nodes").length)) :
    NodesPermuted o (o.modifyList "nodes" (reorder order)) := by
  refine ⟨fun key hkey => Fields.present?_modifyList_of_ne hkey _ o, ?_⟩
  rw [Fields.present?_modifyList_self]
  match hnodes : present? o "nodes" with
  | some (.list items) =>
    rw [objectsAt_of_list hnodes, List.length_map] at h
    exact .list (reorder_perm h).symm
  | none | some .null | some (.bool _) | some (.int _) | some (.float _) | some (.string _)
  | some (.object _) => exact .same _

theorem getElem?_appObjects {apps : List Json} {x : Json}
    (happs : present? o "apps" = some (.list apps)) (hx : apps[i]? = some x) :
    (appObjects (.object o))[i]? = some (membersOf x) := by
  rw [appObjects, membersOf, objectsAt_of_list happs, List.getElem?_map, hx]
  rfl

theorem appsPermuted_reorderNodes {doc : Json} (h : IsOrder doc i order) :
    ObjectAlike AppsPermuted doc (reorderNodes i order doc) := by
  refine objectAlike_mapObject fun o hdoc => ?_
  subst hdoc
  refine ⟨fun key hkey => Fields.present?_modifyList_of_ne hkey _ o, ?_⟩
  rw [Fields.present?_modifyList_self]
  match happs : present? o "apps" with
  | some (.list apps) =>
    refine .list ⟨(List.length_modify ..).symm, fun k x x' hx hx' => ?_⟩
    rw [List.getElem?_modify, hx] at hx'
    obtain rfl := Option.some.inj hx'
    dsimp only
    split
    · next hik =>
      refine objectAlike_mapObject fun app happ => nodesPermuted_reorder (h app ?_)
      rw [getElem?_appObjects happs (hik ▸ hx), happ]
      rfl
    · exact objectAlike_refl NodesPermuted.refl x
  | none | some .null | some (.bool _) | some (.int _) | some (.float _) | some (.string _)
  | some (.object _) => exact .other fun _ heq => by cases heq

theorem IsApp.blocks_eq {a : App} (h : IsApp site o a) : a.blocks = a.nodes.map Node.names := by
  rw [App.blocks, h.identifiers, App.names, splitLengths_flatMap]

theorem IsApp.reorderNodes {a : App} (h : IsApp site o a)
    (horder : order.Perm (List.range (objectsAt o "nodes").length)) :
    IsApp site (o.modifyList "nodes" (reorder order)) (a.reorderNodes order) := by
  have hplain : ∀ key, key ≠ "nodes" →
      present? (o.modifyList "nodes" (reorder order)) key = present? o key :=
    fun key hkey => Fields.present?_modifyList_of_ne hkey _ o
  have hreference : IsReference site (o.modifyList "nodes" (reorder order)) "scheduler_config"
      a.schedulerConfig := by
    refine ⟨?_, h.schedulerConfig.exists_file⟩
    rw [hplain _ (by decide)]
    exact h.schedulerConfig.verbatim
  have hmodules : IsList (o.modifyList "nodes" (reorder order)) "modules"
      (fun _ _ m => m = .placeholder) a.modules := by
    rw [IsList, hplain _ (by decide)]
    exact h.modules
  have hidentifiers : (a.reorderNodes order).identifiers = (a.reorderNodes order).names := by
    rw [App.reorderNodes, App.names, h.blocks_eq, reorder_map, List.flatMap_def]
  have hdistinct : (a.reorderNodes order).names.Nodup := by
    rw [h.nodes.placewise.length_eq] at horder
    exact ((reorder_perm horder).flatMap_right Node.names).nodup_iff.mpr h.distinct
  obtain ⟨declared, hnodes, hparts⟩ := h.nodes
  have hreordered : present? (o.modifyList "nodes" (reorder order)) "nodes" =
      (declared.map (reorder order)).map .list := by
    rw [Fields.present?_modifyList_self, hnodes]
    cases declared <;> rfl
  refine ⟨?_, h.valid, ?_, ?_, hreference, ?_, ⟨_, hreordered, ?_⟩, hmodules, hidentifiers,
    hdistinct⟩
  · rw [hplain _ (by decide)]
    exact h.name
  · rw [hplain _ (by decide)]
    exact h.domainId
  · rw [hplain _ (by decide)]
    exact h.protocol
  · intro hnone
    rw [hreordered] at hnone
    apply h.required
    rw [hnodes]
    cases declared with
    | none => rfl
    | some items => cases hnone
  · have hitems : (declared.map (reorder order)).getD [] = reorder order (declared.getD []) := by
      cases declared with
      | none => simp [reorder]
      | some items => rfl
    rw [hitems]
    exact hparts.reorder order

theorem IsPlan.reorderNodes {p : Plan} (h : IsPlan site o p)
    (horder : IsOrder (.object o) i order) :
    Describes site (reorderNodes i order (.object o)) (p.reorderNodes i order) := by
  obtain ⟨declared, happs, hparts⟩ := h.apps
  cases declared with
  | none => exact absurd happs h.required
  | some apps =>
    let g : List Json → List Json := fun apps =>
      apps.modify i (Json.mapObject (Members.modifyList "nodes" (reorder order)))
    have hplain : ∀ key, key ≠ "apps" → present? (o.modifyList "apps" g) key = present? o key :=
      fun key hkey => Fields.present?_modifyList_of_ne hkey g o
    have hmodified : present? (o.modifyList "apps" g) "apps" = some (.list (g apps)) := by
      rw [Fields.present?_modifyList_self, happs]
      rfl
    refine ⟨o.modifyList "apps" g, rfl, ?_, ?_, ?_, ?_, ⟨some (g apps), hmodified, ?_⟩,
      h.customMessages⟩
    · rw [hplain _ (by decide)]
      exact h.version
    · rw [hplain _ (by decide)]
      exact h.platform
    · rw [hplain _ (by decide)]
      exact h.language
    · rw [hmodified]
      simp
    · refine hparts.modify fun x a hx ha => ?_
      obtain ⟨app, rfl, happ⟩ := hparts.related i x a hx ha
      exact ⟨_, rfl, happ.reorderNodes (horder app (getElem?_appObjects happs hx))⟩

end Reordered

/-! ## The order of nodes -/

/-- With the nodes of an app in another order a document has a plan or is refused for names as
before; the plan has the nodes of the app, and the names of each, in that order. What it is refused
for are the names that occur twice, in ascending order, and the rest of it is accepted. -/
theorem order_of_readDocument {site : Site} {doc : Json} {i : Nat} {order : List Nat}
    (horder : IsOrder doc i order) :
    ((∃ plan, (readDocument site doc).result = .ok plan) ↔
      ∃ plan, (readDocument site (reorderNodes i order doc)).result = .ok plan) ∧
    (∀ plan, (readDocument site doc).result = .ok plan →
      (readDocument site (reorderNodes i order doc)).result = .ok (plan.reorderNodes i order)) ∧
    (∀ names, (readDocument site doc).result =
        .error (.duplicateIdentifiers [.element "apps" i] names) ↔
      (readDocument site (reorderNodes i order doc)).result =
        .error (.duplicateIdentifiers [.element "apps" i] names)) ∧
    ∀ names, (readDocument site doc).result =
        .error (.duplicateIdentifiers [.element "apps" i] names) ↔
      IsRefusedAt site doc i names := by
  obtain ⟨hplan, hrefused⟩ := appsPermuted_iff site (appsPermuted_reorderNodes horder)
  refine ⟨hplan, fun plan hread => ?_, fun names => ?_, fun names => readDocument_duplicates_iff⟩
  · obtain ⟨o, rfl, hmade⟩ := readDocument_result_ok.mp hread
    exact readDocument_result_ok.mpr (hmade.reorderNodes horder)
  · rw [readDocument_duplicates_iff, readDocument_duplicates_iff]
    exact hrefused i names

/-! ## Two nodes -/

def pairApp : Members :=
  [("namespace", .string "robot"), ("protocol_type", .int 2),
   ("nodes", .list [.object smallNode, .object [("classname", .string "Idle")]])]

def pairDocument : Json :=
  .object [("wolfes_version", .string "1.0.0"), ("platform", .int 0), ("lang", .int 2),
    ("apps", .list [.object pairApp])]

theorem isOrder_pairDocument : IsOrder pairDocument 0 [1, 0] := by
  intro app happ
  obtain rfl : pairApp = app := Option.some.inj happ
  have hswap : [1, 0].Perm (List.range 2) := by decide
  exact hswap

theorem order_of_pairDocument : ∃ plan, (readDocument smallSite pairDocument).result = .ok plan ∧
    (readDocument smallSite (reorderNodes 0 [1, 0] pairDocument)).result =
      .ok (plan.reorderNodes 0 [1, 0]) := by
  have hread : ∃ plan, (readDocument smallSite pairDocument).result = .ok plan := ⟨_, rfl⟩
  obtain ⟨plan, hplan⟩ := hread
  exact ⟨plan, hplan, (order_of_readDocument isOrder_pairDocument).2.1 plan hplan⟩

end Document
end AppConfig

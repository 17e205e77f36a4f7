import AppConfig.Proofs.Document.Alike
import AppConfig.Proofs.Document.Refusals
import AppConfig.Proofs.Journal.Hidden

/-! # What a node that fails hides

* `SameThroughNode i j`: documents that are the same up to a node of an app. The later nodes of the
  app, its modules and the later apps may be anything, or absent.
* `sameIfAt_readApp`, `sameIfAt_readDocument`: if the first of them fails in the node, the other
  is read alike.
* `firstApps`: a document with its first apps alone.
* `hidden_of_readDocument`: a document that fails in a node is read as any that is the same up to
  the node, and the apps before that of the node make a plan.
-/

namespace AppConfig.Document
set_option autoImplicit false
open Outcome
open Fields (present? FailsAt)

variable {α : Type} {site : Site} {o o' : Members} {key : String} {l : Location}

/-! ## Documents that are the same up to a node -/

/-- Under the key stand lists that are related. -/
def ListsAt (key : String) (R : List Json → List Json → Prop) (o o' : Members) : Prop :=
  ∃ items items', present? o key = some (.list items) ∧ present? o' key = some (.list items') ∧
    R items items'

/-- The apps have the same nodes up to one, and other modules maybe. -/
structure SameAppThrough (j : Nat) (o o' : Members) : Prop where
  fields : ∀ key, key ≠ "nodes" → key ≠ "modules" → present? o' key = present? o key
  nodes : ListsAt "nodes" (SameUpTo Eq j) o o'

structure SameRootThrough (i j : Nat) (o o' : Members) : Prop where
  fields : ∀ key, key ≠ "apps" → present? o' key = present? o key
  apps : ListsAt "apps" (SameUpTo (ObjectAlike (SameAppThrough j)) i) o o'

/-- The documents are the same up to a node of an app, that node included. -/
def SameThroughNode (i j : Nat) : Json → Json → Prop := ObjectAlike (SameRootThrough i j)

/-! ## Places that readers of fields avoid -/

theorem avoids_of_failsAt {x : Outcome α} {list : String} {index : Nat} (h : FailsAt key x) :
    Avoids (.element list index :: l) x := by
  rintro fault hfault ⟨rest, hat⟩
  cases (h fault hfault).symm.trans hat

theorem avoids_readModules {j : Nat} : Avoids (.element "nodes" j :: l) (readModules o) :=
  .bind (avoids_of_failsAt Fields.failsAt_optionalList) fun items _ =>
    avoids_elements (by simp) items _

theorem avoids_check {j : Nat} (registry : Registry) :
    Avoids (.element "nodes" j :: l) (.ofExcept (registry.check .root)) := by
  rintro fault hfault ⟨rest, hat⟩
  obtain ⟨-, rfl⟩ := Registry.check_eq_error.mp hfault
  cases hat

/-! ## Two documents -/

theorem sameIfAt_list {R : Json → Json → Prop} {f : Nat → Json → Outcome α} {k : Nat}
    (hlists : ListsAt key (SameUpTo R k) o o')
    (h : ∀ v v', R v v' → SameIfAt l (f k v) (f k v')) :
    SameIfAt (.element key k :: l) (Fields.list o key >>= fun items => elements key items f)
      (Fields.list o' key >>= fun items => elements key items f) := by
  obtain ⟨items, items', hitems, hitems', hsame⟩ := hlists
  rw [Fields.list_of_present hitems, Fields.list_of_present hitems', pure_bind, pure_bind]
  exact .elements hsame h key

theorem sameIfAt_readNodes {j : Nat} (h : ListsAt "nodes" (SameUpTo Eq j) o o') :
    SameIfAt (.element "nodes" j :: l) (readNodes site o) (readNodes site o') := by
  refine sameIfAt_list h fun v v' hv => ?_
  rw [hv]
  exact .refl _

theorem sameIfAt_readApp {j : Nat} {v v' : Json} (h : ObjectAlike (SameAppThrough j) v v') :
    SameIfAt (.element "nodes" j :: l) (readApp site v) (readApp site v') := by
  cases h with
  | other => exact .refl _
  | @object o o' h =>
    have hname : readNamespace o' = readNamespace o := by
      rw [readNamespace, readNamespace,
        Fields.text_congr (h.fields "namespace" (by decide) (by decide))]
    have hdomain : readDomain o' = readDomain o := by
      rw [readDomain, readDomain,
        Fields.optionalNatural32_congr (h.fields "domain_id" (by decide) (by decide))]
    have hprotocol : Fields.code Protocol o' "protocol_type" =
        Fields.code Protocol o "protocol_type" :=
      Fields.code_congr (h.fields "protocol_type" (by decide) (by decide)) Protocol
    have hscheduler : readReference site o' "scheduler_config" =
        readReference site o "scheduler_config" := by
      rw [readReference, readReference,
        Fields.optionalText_congr (h.fields "scheduler_config" (by decide) (by decide))]
    simp only [readApp, asObject_object, pure_bind, hname, hdomain, hprotocol, hscheduler]
    refine .after _ fun name => .after _ fun domainId => .after _ fun protocol => ?_
    refine .after _ fun schedulerConfig => ?_
    refine .first (sameIfAt_readNodes h.nodes).listen (fun read _ => ?_) _
    refine .bind avoids_readModules fun modules _ => .bind (avoids_check _) fun _ _ => ?_
    exact .bind (.log _) fun _ _ => .pure _

theorem sameIfAt_readDocument {i j : Nat} {doc doc' : Json} (h : SameThroughNode i j doc doc') :
    SameIfAt [.element "apps" i, .element "nodes" j] (readDocument site doc)
      (readDocument site doc') := by
  cases h with
  | other => exact .refl _
  | @object o o' h =>
    have hversion : readVersion o' = readVersion o :=
      readVersion_congr (h.fields "wolfes_version" (by decide))
    have hplatform : Fields.code Platform o' "platform" = Fields.code Platform o "platform" :=
      Fields.code_congr (h.fields "platform" (by decide)) Platform
    have hlanguage : Fields.code Language o' "lang" = Fields.code Language o "lang" :=
      Fields.code_congr (h.fields "lang" (by decide)) Language
    simp only [readDocument, asObject_object, pure_bind, hversion, hplatform, hlanguage]
    refine .after _ fun version => .after _ fun platform => .after _ fun language => ?_
    refine .first (sameIfAt_list h.apps fun v v' => sameIfAt_readApp) (fun apps _ => ?_) _
    exact .bind (.log _) fun _ _ => .pure _

/-! ## The apps before -/

/-- The document with its first apps alone. -/
def firstApps (n : Nat) : Json → Json := Json.mapObject (Members.modifyList "apps" (List.take n))

theorem readDocument_firstApps {items : List Json} (happs : present? o "apps" = some (.list items))
    (n : Nat) :
    readDocument site (firstApps n (.object o)) = readDocument site (withApps o (items.take n)) := by
  refine readDocument_congr fun key _ => ?_
  by_cases hkey : key = "apps"
  · rw [hkey, Fields.present?_modifyList_self, happs, present?_insert_apps]
    rfl
  · rw [Fields.present?_modifyList_of_ne hkey, Fields.present?_insert_of_ne hkey]

/-- Apps are read in order: those before one that is refused are good. -/
theorem exists_app_before {items : List Json} {i : Nat}
    (h : EndsIn (Fault.IsAt (.element "apps" i :: l)) (appsRun site items)) :
    ∀ v ∈ items.take i, ∃ a, (readApp site v).result = .ok a := by
  obtain ⟨fault, hfault, hat⟩ := h
  obtain ⟨k, v, inner, -, -, rfl, hbefore⟩ := elements_result_error.mp hfault
  obtain ⟨hsegment, -⟩ := Fault.isAt_under.mp hat
  injection hsegment with _ hk
  obtain rfl := hk
  exact forall_mem_take.mpr hbefore

theorem exists_plan_firstApps {i : Nat} {doc : Json}
    (h : EndsIn (Fault.IsAt (.element "apps" i :: l)) (readDocument site doc)) :
    ∃ plan, (readDocument site (firstApps i doc)).result = .ok plan := by
  obtain ⟨fault, hfault, hat⟩ := h
  obtain ⟨rest, hlocation⟩ := id hat
  cases doc with
  | object o =>
    obtain ⟨hroot, happs⟩ := hasRoot_of_readDocument hlocation hfault
    obtain ⟨p, hrest⟩ := hroot.exists_rest site
    rcases bind_result_error.mp happs with hlist | ⟨items, hlist, hrun⟩
    · exact absurd hat (avoids_of_failsAt Fields.failsAt_list fault hlist)
    · rw [readDocument_firstApps (Fields.list_result_ok.mp hlist), hrest.exists_plan_iff]
      intro v hv
      exact hrest.exists_alone_iff.mpr (exists_app_before ⟨fault, hrun, hat⟩ v hv)
  | _ =>
    obtain rfl : Fault.wrongShape [] Shape.object.describe = fault := Except.error.inj hfault
    cases hlocation

/-- A node that fails hides what stands after it: documents that are the same up to the node are
read alike. The apps before it are good. -/
theorem hidden_of_readDocument {site : Site} {doc : Json} {i j : Nat}
    (h : EndsIn (Fault.IsAt [.element "apps" i, .element "nodes" j]) (readDocument site doc)) :
    (∀ doc', SameThroughNode i j doc doc' → readDocument site doc' = readDocument site doc) ∧
      ∃ plan, (readDocument site (firstApps i doc)).result = .ok plan :=
  ⟨fun _ hsame => sameIfAt_readDocument hsame h, exists_plan_firstApps h⟩

/-! ## A node that fails

It is the second node of the second app. -/

def strayNode : Members := [("classname", .string "a node")]

def strayApp (later : List Json) (modules : Json) : Members :=
  [("namespace", .string "robot"), ("protocol_type", .int 2),
   ("nodes", .list (.object smallNode :: .object strayNode :: later)), ("modules", modules)]

def strayDocument (later : List Json) (modules : Json) (apps : List Json) : Json :=
  .object [("wolfes_version", .string "1.0.0"), ("platform", .int 0), ("lang", .int 2),
    ("apps", .list (.object smallApp :: .object (strayApp later modules) :: apps))]

theorem sameThroughNode_strayDocument (later : List Json) (modules : Json) (apps : List Json) :
    SameThroughNode 1 1 (strayDocument [] .null []) (strayDocument later modules apps) := by
  have happ : SameAppThrough 1 (strayApp [] .null) (strayApp later modules) := by
    refine ⟨fun key hnodes hmodules => ?_, _, _, rfl, rfl, .later _ (.here rfl _ _)⟩
    refine Fields.present?_cons_congr (Fields.present?_cons_congr ?_ _) _
    rw [Fields.present?_cons_of_ne hnodes.symm, Fields.present?_cons_of_ne hnodes.symm,
      Fields.present?_cons_of_ne hmodules.symm, Fields.present?_cons_of_ne hmodules.symm]
  refine .object ⟨fun key hkey => ?_, _, _, rfl, rfl, .later _ (.here (.object happ) _ _)⟩
  refine Fields.present?_cons_congr (Fields.present?_cons_congr (Fields.present?_cons_congr ?_ _) _) _
  rw [Fields.present?_cons_of_ne hkey.symm, Fields.present?_cons_of_ne hkey.symm]

theorem hidden_of_strayDocument :
    EndsIn (Fault.IsAt [.element "apps" 1, .element "nodes" 1])
      (readDocument smallSite (strayDocument [] .null [])) ∧
    readDocument smallSite (strayDocument [.null] (.string "modules") [.int 5]) =
      readDocument smallSite (strayDocument [] .null []) ∧
    ∃ plan, (readDocument smallSite (firstApps 1 (strayDocument [] .null []))).result =
      .ok plan := by
  have hstray : EndsIn (Fault.IsAt [.element "apps" 1, .element "nodes" 1])
      (readDocument smallSite (strayDocument [] .null [])) := ⟨_, rfl, [.field "classname"], rfl⟩
  obtain ⟨hsame, hbefore⟩ := hidden_of_readDocument hstray
  exact ⟨hstray, hsame _ (sameThroughNode_strayDocument _ _ _), hbefore⟩

end AppConfig.Document

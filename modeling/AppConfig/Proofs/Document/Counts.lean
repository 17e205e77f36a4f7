import Mathlib.Algebra.GroupWithZero.Nat
import AppConfig.Proofs.Document.Reading

/-! # A plan is its document

`describes_of_readDocument`: the plan of a document holds the values of the document part by part,
and its counts are those of the lists in the document.
-/

namespace AppConfig
set_option autoImplicit false

/-! ## Counting a plan -/

theorem Node.sum_entityCount (nodes : List Node) :
    (nodes.map Node.entityCount).sum =
      (nodes.flatMap Node.timers).length + (nodes.flatMap Node.topicPubs).length +
        (nodes.flatMap Node.topicSubs).length + (nodes.flatMap Node.serviceServers).length +
          (nodes.flatMap Node.serviceClients).length := by
  induction nodes with
  | nil => rfl
  | cons n nodes ih =>
    simp only [List.map_cons, List.sum_cons, List.flatMap_cons, List.length_append]
    rw [ih, Node.entityCount]
    omega

theorem Plan.sum_entityCount (p : Plan) :
    (p.nodes.map Node.entityCount).sum =
      p.summary.timers + p.summary.topicPubs + p.summary.topicSubs + p.summary.serviceServers +
        p.summary.serviceClients := Node.sum_entityCount p.nodes

namespace Document
open Fields (objectsAt membersOf)

/-! ## Counting a document -/

def appObjects (doc : Json) : List Members := objectsAt (membersOf doc) "apps"

def nodeObjects (doc : Json) : List Members := (appObjects doc).flatMap (objectsAt · "nodes")

/-- The elements of the lists of a document. -/
def elementCounts (doc : Json) : Summary where
  apps := (appObjects doc).length
  nodes := (nodeObjects doc).length
  modules := ((appObjects doc).flatMap (objectsAt · "modules")).length
  timers := ((nodeObjects doc).flatMap (objectsAt · "timers")).length
  topicPubs := ((nodeObjects doc).flatMap (objectsAt · "topic_pubs")).length
  topicSubs := ((nodeObjects doc).flatMap (objectsAt · "topic_subs")).length
  serviceServers := ((nodeObjects doc).flatMap (objectsAt · "service_servers")).length
  serviceClients := ((nodeObjects doc).flatMap (objectsAt · "service_clients")).length

section Describes
variable {γ δ : Type} {site : Site} {doc : Json} {plan : Plan}

theorem Describes.apps (h : Describes site doc plan) :
    Placewise (fun _ => IsApp site) (appObjects doc) plan.apps := by
  obtain ⟨o, rfl, hplan⟩ := h
  exact hplan.apps.placewise

/-- Lists of equal length at each node are of equal length over all nodes. -/
theorem Describes.length_flatMap_nodes (h : Describes site doc plan) {g : Members → List γ}
    {p : Node → List δ} (hg : ∀ o n, IsNode site o n → (g o).length = (p n).length) :
    ((nodeObjects doc).flatMap g).length = (plan.nodes.flatMap p).length := by
  rw [nodeObjects, Plan.nodes, List.flatMap_assoc, List.flatMap_assoc]
  apply h.apps.length_flatMap
  intro i o a _ _ happ
  exact happ.nodes.placewise.length_flatMap fun _ o' n _ _ hnode => hg o' n hnode

theorem Describes.summary_eq (h : Describes site doc plan) : plan.summary = elementCounts doc := by
  have happs : plan.apps.length = (appObjects doc).length := h.apps.length_eq.symm
  have hnodes : plan.nodes.length = (nodeObjects doc).length :=
    (h.apps.length_flatMap fun _ _ _ _ _ happ => happ.nodes.placewise.length_eq).symm
  have hmodules := h.apps.length_flatMap fun _ _ _ _ _ happ => happ.modules.placewise.length_eq
  have htimers := h.length_flatMap_nodes fun _ _ hnode => hnode.timers.placewise.length_eq
  have hpubs := h.length_flatMap_nodes fun _ _ hnode => hnode.topicPubs.placewise.length_eq
  have hsubs := h.length_flatMap_nodes fun _ _ hnode => hnode.topicSubs.placewise.length_eq
  have hservers := h.length_flatMap_nodes fun _ _ hnode => hnode.serviceServers.placewise.length_eq
  have hclients := h.length_flatMap_nodes fun _ _ hnode => hnode.serviceClients.placewise.length_eq
  rw [Plan.summary, elementCounts, happs, hnodes, hmodules, htimers, hpubs, hsubs, hservers,
    hclients]

end Describes

/-- The plan of a document is the one that the document describes, counts included. -/
theorem describes_of_readDocument {site : Site} {doc : Json} {plan : Plan}
    (h : (readDocument site doc).result = .ok plan) :
    Describes site doc plan ∧ plan.summary = elementCounts doc ∧
      (plan.nodes.map Node.entityCount).sum =
        plan.summary.timers + plan.summary.topicPubs + plan.summary.topicSubs +
          plan.summary.serviceServers + plan.summary.serviceClients := by
  have hplan : Describes site doc plan := readDocument_result_ok.mp h
  exact ⟨hplan, hplan.summary_eq, plan.sum_entityCount⟩

theorem describes_smallDocument : ∃ plan,
    (readDocument smallSite smallDocument).result = .ok plan ∧
      Describes smallSite smallDocument plan ∧ plan.summary = elementCounts smallDocument ∧
        (plan.nodes.map Node.entityCount).sum =
          plan.summary.timers + plan.summary.topicPubs + plan.summary.topicSubs +
            plan.summary.serviceServers + plan.summary.serviceClients := by
  obtain ⟨plan, hplan⟩ := exists_smallPlan
  exact ⟨plan, hplan, describes_of_readDocument hplan⟩

end Document
end AppConfig

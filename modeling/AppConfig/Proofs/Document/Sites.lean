import AppConfig.Proofs.Document.Counts
import AppConfig.Proofs.Journal.Unless

/-! # The site of a document

* `IsMissing`: the fault of a reference whose file is not there; `IsLost`: of one that leads nowhere
  on a site, for that reason or because the site has no home directory.
* `eqUnless_readNode` and its like: two sites read a part alike, or on one of them a reference
  leads nowhere.
* `KeepsPaths`: each path in a plan is the text that stands in its place in the document.
* `sites_of_readDocument`: two sites that make a plan of a document make the same one, with the
  paths of the document; if they end in any other way apart, a reference leads nowhere on one of
  them.

A site is asked where a reference leads and whether a file is there. Where it leads is seen in the
fault alone.
-/

namespace AppConfig.Document
set_option autoImplicit false
open Outcome
open Fields (present? objectsAt membersOf)

variable {α : Type} {site site' : Site}

/-! ## Lost references -/

/-- The document names a file that is not there. -/
def IsMissing (fault : Fault) : Prop := ∃ l path, fault = .referenceNotFound l path

/-- The document names a file that is not there, or one in a home directory where there is none. -/
def IsLost (site : Site) (fault : Fault) : Prop := IsMissing fault ∨ IsHomeless site fault

theorem endsIn_isMissing {x : Outcome α} (hhome : site.home ≠ none) (h : EndsIn (IsLost site) x) :
    EndsIn IsMissing x := by
  obtain ⟨fault, hfault, hlost⟩ := h
  exact ⟨fault, hfault, hlost.resolve_right fun hhomeless => hhome hhomeless.1⟩

theorem IsLost.under (s : Segment) (fault : Fault) (h : IsLost site fault) :
    IsLost site (fault.under s) := by
  rcases h with ⟨l, path, rfl⟩ | ⟨hhome, raw, hnames, rfl⟩
  · exact .inl ⟨s :: l, path, rfl⟩
  · exact .inr ⟨hhome, raw, hnames, rfl⟩

/-- A reference that is refused is lost. -/
theorem requireFile_eq_or_endsIn (site : Site) (key raw : String) :
    requireFile site key raw = pure () ∨ EndsIn (IsLost site) (requireFile site key raw) := by
  cases looked_requireFile site key raw with
  | found h hrun => exact .inl hrun
  | homeless hnames hhome hrun =>
    rw [hrun]
    exact .inr ⟨_, rfl, .inr ⟨hhome, raw, hnames, rfl⟩⟩
  | missing h hrun =>
    rw [hrun]
    exact .inr ⟨_, rfl, .inl ⟨_, _, rfl⟩⟩

/-! ## Two sites -/

/-- A site that takes the reference keeps the text, whatever the path it leads to. -/
theorem eqUnless_requireFile (key raw : String) :
    EqUnless (IsLost site) (IsLost site') (requireFile site key raw)
      (requireFile site' key raw) := by
  rcases requireFile_eq_or_endsIn site key raw with hrun | hlost
  · rcases requireFile_eq_or_endsIn site' key raw with hrun' | hlost'
    · exact .same (hrun.trans hrun'.symm)
    · exact .right hlost'
  · exact .left hlost

theorem eqUnless_readReference (o : Members) (key : String) :
    EqUnless (IsLost site) (IsLost site') (readReference site o key)
      (readReference site' o key) := by
  refine .after _ fun declared => ?_
  cases declared with
  | none => exact .refl _
  | some raw => exact (eqUnless_requireFile key raw).bind fun _ => .refl _

theorem eqUnless_readMessage (o : Members) :
    EqUnless (IsLost site) (IsLost site') (readMessage site o) (readMessage site' o) := by
  refine .after _ fun name => .after _ fun format => ?_
  exact (eqUnless_readReference o "msg_src").bind fun source => .refl _

theorem eqUnless_readEndpoint (kind : EndpointKind) (index : Nat) (o : Members) :
    EqUnless (IsLost site) (IsLost site') (readEndpoint site kind index o)
      (readEndpoint site' kind index o) := by
  refine .after _ fun id => .after _ fun channel => ?_
  exact (eqUnless_readMessage o).bind fun message => .refl _

theorem eqUnless_readEndpoints (o : Members) (kind : EndpointKind) :
    EqUnless (IsLost site) (IsLost site') (readEndpoints site o kind)
      (readEndpoints site' o kind) := by
  refine .after _ fun items => .after _ fun objects => ?_
  exact .elements IsLost.under IsLost.under (eqUnless_readEndpoint kind) _ objects

theorem eqUnless_readNode (v : Json) :
    EqUnless (IsLost site) (IsLost site') (readNode site v) (readNode site' v) := by
  refine .after _ fun o => .after _ fun classname => ?_
  refine (eqUnless_readReference o "qos_config").bind fun qosConfig => ?_
  refine .after _ fun timers => ?_
  refine (eqUnless_readEndpoints o .topicPub).bind fun topicPubs => ?_
  refine (eqUnless_readEndpoints o .topicSub).bind fun topicSubs => ?_
  refine (eqUnless_readEndpoints o .serviceServer).bind fun serviceServers => ?_
  exact (eqUnless_readEndpoints o .serviceClient).bind fun serviceClients => .refl _

theorem eqUnless_readNodes (o : Members) :
    EqUnless (IsLost site) (IsLost site') (readNodes site o) (readNodes site' o) := by
  refine .after _ fun items => ?_
  exact .elements IsLost.under IsLost.under (fun _ v => eqUnless_readNode v) _ items

theorem eqUnless_readApp (v : Json) :
    EqUnless (IsLost site) (IsLost site') (readApp site v) (readApp site' v) := by
  refine .after _ fun o => .after _ fun name => .after _ fun domainId => .after _ fun protocol => ?_
  refine (eqUnless_readReference o "scheduler_config").bind fun schedulerConfig => ?_
  exact (eqUnless_readNodes o).listen.bind fun read => .refl _

theorem eqUnless_readApps (o : Members) :
    EqUnless (IsLost site) (IsLost site') (readApps site o) (readApps site' o) := by
  refine .after _ fun items => ?_
  exact .elements IsLost.under IsLost.under (fun _ v => eqUnless_readApp v) _ items

theorem eqUnless_readDocument (doc : Json) :
    EqUnless (IsLost site) (IsLost site') (readDocument site doc) (readDocument site' doc) := by
  refine .after _ fun o => .after _ fun version => ?_
  refine .after _ fun platform => .after _ fun language => ?_
  exact (eqUnless_readApps o).bind fun apps => .refl _

/-! ## Paths of a plan -/

/-- The text under a key, or none where the key has no value. -/
def IsVerbatim (o : Members) (key : String) (path : Option String) : Prop :=
  present? o key = path.map .string

structure KeepsNodePaths (o : Members) (n : Node) : Prop where
  qosConfig : IsVerbatim o "qos_config" n.qosConfig
  sources : ∀ kind, Placewise (fun _ inner (e : Endpoint) =>
    IsVerbatim inner "msg_src" e.message.source)
      (objectsAt o (EntityKind.endpoint kind).listKey) (n.endpoints kind)

structure KeepsAppPaths (o : Members) (a : App) : Prop where
  schedulerConfig : IsVerbatim o "scheduler_config" a.schedulerConfig
  nodes : Placewise (fun _ => KeepsNodePaths) (objectsAt o "nodes") a.nodes
  modules : ∀ m ∈ a.modules, m = .placeholder

/-- Each path of the plan is the text in its place in the document. -/
structure KeepsPaths (doc : Json) (p : Plan) : Prop where
  apps : Placewise (fun _ => KeepsAppPaths) (appObjects doc) p.apps
  customMessages : p.customMessages = []

theorem IsNode.keepsPaths {o : Members} {n : Node} (h : IsNode site o n) : KeepsNodePaths o n where
  qosConfig := h.qosConfig.verbatim
  sources kind := (h.endpoints kind).placewise.mono fun _ _ _ he => he.message.source.verbatim

theorem IsApp.keepsPaths {o : Members} {a : App} (h : IsApp site o a) : KeepsAppPaths o a where
  schedulerConfig := h.schedulerConfig.verbatim
  nodes := h.nodes.placewise.mono fun _ _ _ hn => hn.keepsPaths
  modules m hm := by
    obtain ⟨-, -, hplaceholder⟩ := h.modules.exists_object hm
    exact hplaceholder

theorem Describes.keepsPaths {doc : Json} {p : Plan} (h : Describes site doc p) :
    KeepsPaths doc p where
  apps := h.apps.mono fun _ _ _ ha => ha.keepsPaths
  customMessages := by
    obtain ⟨o, -, hplan⟩ := h
    exact hplan.customMessages

/-! ## Documents -/

/-- The plan of a document and its diagnostics are those of the document alone: no two sites make
different ones, and they end apart only where a reference leads nowhere. If both have a home
directory, that is a file that is not there. -/
theorem sites_of_readDocument (site site' : Site) (doc : Json) :
    (∀ plan plan', (readDocument site doc).result = .ok plan →
      (readDocument site' doc).result = .ok plan' →
        plan' = plan ∧ KeepsPaths doc plan ∧
          (readDocument site' doc).journal.diagnostics =
            (readDocument site doc).journal.diagnostics) ∧
    (readDocument site' doc ≠ readDocument site doc →
      EndsIn (IsLost site) (readDocument site doc) ∨
        EndsIn (IsLost site') (readDocument site' doc)) ∧
    (site.home ≠ none → site'.home ≠ none → readDocument site' doc ≠ readDocument site doc →
      EndsIn IsMissing (readDocument site doc) ∨ EndsIn IsMissing (readDocument site' doc)) := by
  have hsites : EqUnless (IsLost site) (IsLost site') (readDocument site doc)
      (readDocument site' doc) := eqUnless_readDocument doc
  have hends : readDocument site' doc ≠ readDocument site doc →
      EndsIn (IsLost site) (readDocument site doc) ∨
        EndsIn (IsLost site') (readDocument site' doc) := by
    intro hne
    cases hsites with
    | left h => exact .inl h
    | right h => exact .inr h
    | same h => exact absurd h.symm hne
  refine ⟨fun plan plan' hplan hplan' => ?_, hends, fun hhome hhome' hne => ?_⟩
  · have hsame : readDocument site doc = readDocument site' doc :=
      hsites.eq_of_ok hplan hplan'
    rw [hsame, hplan'] at hplan
    obtain rfl : plan' = plan := Except.ok.inj hplan
    exact ⟨rfl, (readDocument_result_ok.mp hplan').keepsPaths, by rw [hsame]⟩
  · exact (hends hne).imp (endsIn_isMissing hhome) (endsIn_isMissing hhome')

/-- Another home, with the file that the small document names. -/
def otherSite : Site := ⟨some ⟨"/root"⟩, some ⟨"/srv"⟩, fun path => path.text = "/root/msgs.hpp"⟩

theorem sites_of_smallDocument : ∃ plan,
    (readDocument smallSite smallDocument).result = .ok plan ∧
    (readDocument otherSite smallDocument).result = .ok plan ∧ KeepsPaths smallDocument plan ∧
      (readDocument otherSite smallDocument).journal.diagnostics =
        (readDocument smallSite smallDocument).journal.diagnostics := by
  obtain ⟨plan, hplan⟩ := exists_smallPlan
  obtain ⟨plan', hplan'⟩ :
      ∃ plan', (readDocument otherSite smallDocument).result = .ok plan' := ⟨_, rfl⟩
  obtain ⟨hsame, hpaths, hnotes⟩ :=
    (sites_of_readDocument smallSite otherSite smallDocument).1 plan plan' hplan hplan'
  exact ⟨plan, hplan, hsame ▸ hplan', hpaths, hnotes⟩

end AppConfig.Document

import AppConfig.Proofs.Document.Apps
import AppConfig.Proofs.Document.Collisions

/-! # When an app is refused for its names

* `AcceptedApp`: everything in an app is as the format asks, its names perhaps repeated.
* `readApp_duplicates_iff`: an app is refused for its names exactly when it is accepted and repeats
  some, and then for those that it repeats.
* `readDocument_duplicates_iff`: a document is refused so at an app exactly when it is good up to
  the app and the app is refused so.
-/

namespace AppConfig.Document
set_option autoImplicit false
open Outcome
open Fields (present? objectsAt)

variable {α β : Type} {site : Site} {o : Members} {names : List String}

/-- The fields of an app, its nodes and its modules are as the format asks. -/
structure AcceptedApp (site : Site) (o : Members) : Prop where
  name : Required o "namespace" IsName
  domainId : Optional o "domain_id" (IsBelow UInt32.size)
  protocol : Required o "protocol_type" (IsCode "protocol_type")
  schedulerConfig : Optional o "scheduler_config" (IsFile site)
  nodes : Required o "nodes" (IsListOf (WellFormedNode site))
  modules : Optional o "modules" (IsListOf fun _ => True)

theorem wellFormedApp_iff : WellFormedApp site o ↔ AcceptedApp site o ∧ (appNames o).Nodup := by
  constructor
  · intro h
    exact ⟨⟨h.name, h.domainId, h.protocol, h.schedulerConfig, h.nodes, h.modules⟩, h.distinct⟩
  · rintro ⟨h, hdistinct⟩
    exact ⟨h.name, h.domainId, h.protocol, h.schedulerConfig, h.nodes, h.modules, hdistinct⟩

/-! ## Apps -/

/-- The check of the names of nodes is the check of the names in the object of their app. -/
theorem check_eq_error_iff {nodes : List Node} {fault : Fault}
    (h : (readNodes site o).result = .ok nodes) :
    (Registry.mk (readNodes site o).journal.registered).check .root = .error fault ↔
      ¬ (appNames o).Nodup ∧ fault = .duplicateIdentifiers [] (repeated (appNames o)) := by
  have hnames : (readNodes site o).journal.registered = appNames o := by
    rw [registers_readNodes site o nodes h, (readNodes_result_ok.mp h).2.appNames_eq]
  rw [hnames]
  exact Registry.check_eq_error

theorem exists_ok_of_bind_error {x : Outcome α} {f : α → Outcome β} {fault : Fault}
    (hx : x.result ≠ .error fault) (h : (x >>= f).result = .error fault) :
    ∃ a, x.result = .ok a ∧ (f a).result = .error fault :=
  (bind_result_error.mp h).resolve_left hx

theorem FailsInside.ne {x : Outcome α} (h : FailsInside x) :
    x.result ≠ .error (.duplicateIdentifiers [] names) := fun hx => h _ hx rfl

theorem acceptedApp_of_readApp
    (h : (readApp site (.object o)).result = .error (.duplicateIdentifiers [] names)) :
    AcceptedApp site o ∧ ¬ (appNames o).Nodup ∧ names = repeated (appNames o) := by
  -- Whatever comes before the check fails inside the app if it fails.
  obtain ⟨name, hname, h⟩ :=
    exists_ok_of_bind_error (failsInside_of_failsAt failsAt_readNamespace).ne h
  obtain ⟨domainId, hdomain, h⟩ :=
    exists_ok_of_bind_error (failsInside_of_failsAt failsAt_readDomain).ne h
  obtain ⟨protocol, hprotocol, h⟩ :=
    exists_ok_of_bind_error (failsInside_of_failsAt (Fields.failsAt_code Protocol)).ne h
  obtain ⟨schedulerConfig, hscheduler, h⟩ :=
    exists_ok_of_bind_error failsInside_readReference.ne h
  obtain ⟨⟨nodes, journal⟩, hlisten, h⟩ :=
    exists_ok_of_bind_error (FailsInside.ne (.listen failsInside_readNodes)) h
  obtain ⟨modules, hmodules, h⟩ := exists_ok_of_bind_error failsInside_readModules.ne h
  obtain ⟨hnodes, rfl⟩ := listen_result_ok.mp hlisten
  rcases bind_result_error.mp h with hcheck | ⟨_, -, h⟩
  · obtain ⟨hrepeated, hfault⟩ := (check_eq_error_iff hnodes).mp hcheck
    injection hfault with _ hnames
    exact ⟨⟨exists_name.mp ⟨name, readNamespace_result_ok.mp hname⟩,
      exists_domain.mp ⟨domainId, readDomain_result_ok.mp hdomain⟩,
      (exists_code Protocol).mp ⟨protocol, Fields.code_result_ok.mp hprotocol⟩,
      exists_reference.mp ⟨schedulerConfig, readReference_result_ok.mp hscheduler⟩,
      exists_nodes.mp ((readNodes_result_ok.mp hnodes).imp_right fun h => ⟨nodes, h⟩),
      exists_modules.mp ⟨modules, readModules_result_ok.mp hmodules⟩⟩, hrepeated, hnames⟩
  · cases h

theorem readApp_of_acceptedApp (h : AcceptedApp site o) (hrepeated : ¬ (appNames o).Nodup) :
    (readApp site (.object o)).result =
      .error (.duplicateIdentifiers [] (repeated (appNames o))) := by
  obtain ⟨name, hname⟩ := exists_name.mpr h.name
  obtain ⟨domainId, hdomain⟩ := exists_domain.mpr h.domainId
  obtain ⟨protocol, hprotocol⟩ := (exists_code Protocol).mpr h.protocol
  obtain ⟨schedulerConfig, hscheduler⟩ := exists_reference.mpr h.schedulerConfig
  obtain ⟨hthere, nodes, hlist⟩ := exists_nodes.mpr h.nodes
  obtain ⟨modules, hmodules⟩ := exists_modules.mpr h.modules
  have hnodes := readNodes_result_ok.mpr ⟨hthere, hlist⟩
  refine bind_result_error.mpr (.inr ⟨o, rfl, ?_⟩)
  refine bind_result_error.mpr (.inr ⟨name, readNamespace_result_ok.mpr hname, ?_⟩)
  refine bind_result_error.mpr (.inr ⟨domainId, readDomain_result_ok.mpr hdomain, ?_⟩)
  refine bind_result_error.mpr (.inr ⟨protocol, Fields.code_result_ok.mpr hprotocol, ?_⟩)
  refine bind_result_error.mpr (.inr ⟨schedulerConfig, readReference_result_ok.mpr hscheduler, ?_⟩)
  refine bind_result_error.mpr (.inr ⟨(nodes, _), listen_result_ok.mpr ⟨hnodes, rfl⟩, ?_⟩)
  refine bind_result_error.mpr (.inr ⟨modules, readModules_result_ok.mpr hmodules, ?_⟩)
  exact bind_result_error.mpr (.inl ((check_eq_error_iff hnodes).mpr ⟨hrepeated, rfl⟩))

theorem readApp_duplicates_iff :
    (readApp site (.object o)).result = .error (.duplicateIdentifiers [] names) ↔
      AcceptedApp site o ∧ ¬ (appNames o).Nodup ∧ names = repeated (appNames o) := by
  refine ⟨acceptedApp_of_readApp, ?_⟩
  rintro ⟨h, hrepeated, rfl⟩
  exact readApp_of_acceptedApp h hrepeated

/-! ## Documents -/

/-- The document is good up to the app at the index, and the app is good but for names that it
repeats: those listed, in ascending order. -/
def IsRefusedAt (site : Site) (doc : Json) (i : Nat) (names : List String) : Prop :=
  ∃ o apps app, doc = .object o ∧ HasRoot o ∧ present? o "apps" = some (.list apps) ∧
    (∀ x ∈ apps.take i, ∃ a, (readApp site x).result = .ok a) ∧ apps[i]? = some (.object app) ∧
    AcceptedApp site app ∧ ¬ (appNames app).Nodup ∧ names.Pairwise (· < ·) ∧
    ∀ name, name ∈ names ↔ 2 ≤ (appNames app).count name

/-- A fault in an app is one of reading the apps, with the rest of the document good. -/
theorem hasRoot_of_readDocument {fault : Fault} {i : Nat} {l : Location}
    (hl : fault.location? = some (.element "apps" i :: l))
    (h : (readDocument site (.object o)).result = .error fault) :
    HasRoot o ∧ (readApps site o).result = .error fault := by
  have hversion : (readVersion o).result ≠ .error fault :=
    fun hfault => location_of_readVersion i l fault hfault hl
  have hcode : ∀ (α : Type) [Coded α] (key : String),
      (Fields.code α o key).result ≠ .error fault := by
    intro α _ key hfault
    cases (Fields.failsAt_code α fault hfault).symm.trans hl
  obtain ⟨version, hversion, h⟩ := exists_ok_of_bind_error hversion h
  obtain ⟨platform, hplatform, h⟩ := exists_ok_of_bind_error (hcode Platform "platform") h
  obtain ⟨language, hlanguage, h⟩ := exists_ok_of_bind_error (hcode Language "lang") h
  refine ⟨⟨exists_version.mp ⟨version, readVersion_result_ok.mp hversion⟩,
    (exists_code Platform).mp ⟨platform, Fields.code_result_ok.mp hplatform⟩,
    (exists_code Language).mp ⟨language, Fields.code_result_ok.mp hlanguage⟩⟩, ?_⟩
  rcases bind_result_error.mp h with happs | ⟨apps, -, h⟩
  · exact happs
  · cases h

/-- Past the root, the first app that fails decides. -/
theorem HasRoot.duplicates_iff (hroot : HasRoot o) {apps : List Json} {i : Nat}
    (happs : present? o "apps" = some (.list apps)) :
    (readDocument site (.object o)).result =
      .error (.duplicateIdentifiers [.element "apps" i] names) ↔
        (∀ x ∈ apps.take i, ∃ a, (readApp site x).result = .ok a) ∧ ∃ x, apps[i]? = some x ∧
          (readApp site x).result = .error (.duplicateIdentifiers [] names) := by
  obtain ⟨p, hrest⟩ := hroot.exists_rest site
  rw [← readDocument_withApps_self happs, hrest.error_iff, appsRun, elements_result_error,
    forall_mem_take]
  constructor
  · rintro ⟨k, x, inner, hx, hinner, hunder, hbefore⟩
    obtain ⟨hsegment, rfl⟩ := eq_duplicates_of_under hunder
    injection hsegment with _ hk
    obtain rfl := hk
    exact ⟨hbefore, x, hx, hinner⟩
  · rintro ⟨hbefore, x, hx, hinner⟩
    exact ⟨i, x, _, hx, hinner, rfl, hbefore⟩

theorem readDocument_duplicates_iff {doc : Json} {i : Nat} :
    (readDocument site doc).result = .error (.duplicateIdentifiers [.element "apps" i] names) ↔
      IsRefusedAt site doc i names := by
  constructor
  · intro h
    cases doc with
    | object o =>
      have hroot : HasRoot o := (hasRoot_of_readDocument rfl h).1
      obtain ⟨apps, -, -, happs, -⟩ := comesFrom_readDocument o _ h i rfl
      obtain ⟨hbefore, x, hx, hread⟩ := (hroot.duplicates_iff happs).mp h
      cases x with
      | object app =>
        obtain ⟨haccepted, hrepeated, hnames⟩ := readApp_duplicates_iff.mp hread
        exact ⟨o, apps, app, rfl, hroot, happs, hbefore, hx, haccepted, hrepeated,
          eq_repeated_iff.mp hnames⟩
      | _ => cases hread
    | _ => cases h
  · rintro ⟨o, apps, app, rfl, hroot, happs, hbefore, hx, haccepted, hrepeated, hnames⟩
    refine (hroot.duplicates_iff happs).mpr ⟨hbefore, _, hx, ?_⟩
    exact readApp_duplicates_iff.mpr ⟨haccepted, hrepeated, eq_repeated_iff.mpr hnames⟩

end AppConfig.Document

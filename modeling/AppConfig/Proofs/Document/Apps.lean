import AppConfig.Proofs.Document.Acceptance
import AppConfig.Proofs.Document.Notes
import AppConfig.Proofs.Document.Truth

/-! # Apps are read one by one

* `withApps`: a document with other apps; `alone`: with one app.
* `HasRoot`: the version, the platform and the language of a document are good. Then its apps alone
  decide what becomes of it (`HasRoot.exists_rest`).
* `moveApp`: a place in the first app, taken to the same place in another one.
* `appwise_readDocument`: what a document with several apps ends with and what it leaves is put
  together from the documents that have one of the apps alone.
-/

namespace AppConfig
set_option autoImplicit false

def Diagnostic.relocate (f : Location → Location) (d : Diagnostic) : Diagnostic :=
  { d with location := f d.location }

def Plan.withApps (p : Plan) (apps : List App) : Plan := { p with apps }

namespace Document
open Outcome
open Fields (present?)

variable {site : Site} {o : Members} {apps : List Json}

/-- The document with these apps in place of its own. -/
def withApps (o : Members) (apps : List Json) : Json := .object (o.insert "apps" (.list apps))

/-- The fields of the document itself are as the format asks. -/
structure HasRoot (o : Members) : Prop where
  version : Required o "wolfes_version" IsVersion
  platform : Required o "platform" (IsCode "platform")
  language : Required o "lang" (IsCode "lang")

/-- A place in the first app, taken to the app at an index. -/
def moveApp (i : Nat) : Location → Location
  | .element "apps" 0 :: rest => .element "apps" i :: rest
  | l => l

theorem relocate_under_first (i : Nat) (d : Diagnostic) :
    (d.under (.element "apps" 0)).relocate (moveApp i) = d.under (.element "apps" i) := rfl

theorem fault_relocate_under_first (i : Nat) (fault : Fault) :
    (fault.under (.element "apps" 0)).relocate (moveApp i) = fault.under (.element "apps" i) := by
  cases fault <;> rfl

/-! ## The root -/

/-- A document is read through the four fields that it has to have. -/
theorem readDocument_congr {o' : Members}
    (h : ∀ key ∈ requiredKeys .root, present? o' key = present? o key) :
    readDocument site (.object o') = readDocument site (.object o) := by
  have hversion : readVersion o' = readVersion o :=
    readVersion_congr (h "wolfes_version" (by decide))
  have hplatform : Fields.code Platform o' "platform" = Fields.code Platform o "platform" :=
    Fields.code_congr (h "platform" (by decide)) Platform
  have hlanguage : Fields.code Language o' "lang" = Fields.code Language o "lang" :=
    Fields.code_congr (h "lang" (by decide)) Language
  have happs : readApps site o' = readApps site o := readApps_congr (h "apps" (by decide))
  simp only [readDocument, asObject_object, pure_bind, hversion, hplatform, hlanguage, happs]

theorem present?_insert_apps (apps : List Json) :
    present? (o.insert "apps" (.list apps)) "apps" = some (.list apps) :=
  Fields.present?_insert_self rfl o

theorem readDocument_withApps_self (happs : present? o "apps" = some (.list apps)) :
    readDocument site (withApps o apps) = readDocument site (.object o) := by
  apply readDocument_congr
  intro key _
  by_cases hkey : key = "apps"
  · rw [hkey, present?_insert_apps, happs]
  · exact Fields.present?_insert_of_ne hkey _ o

def appsRun (site : Site) (apps : List Json) : Outcome (List App) :=
  elements "apps" apps fun _ v => readApp site v

theorem readApps_insert (apps : List Json) :
    readApps site (o.insert "apps" (.list apps)) = appsRun site apps := by
  rw [readApps, Fields.list_of_present (present?_insert_apps apps), pure_bind, appsRun]

/-- Past the root the apps alone decide; the plan has what does not come from them. -/
structure HasRest (site : Site) (o : Members) (p : Plan) : Prop where
  result : ∀ apps, (readDocument site (withApps o apps)).result =
    (appsRun site apps).result.map p.withApps
  diagnostics : ∀ apps, (readDocument site (withApps o apps)).journal.diagnostics =
    versionNotes o ++ (appsRun site apps).journal.diagnostics

theorem HasRoot.exists_rest (h : HasRoot o) (site : Site) : ∃ p, HasRest site o p := by
  obtain ⟨version, hversion⟩ := exists_version.mpr h.version
  obtain ⟨platform, hplatform⟩ := (exists_code Platform).mpr h.platform
  obtain ⟨language, hlanguage⟩ := (exists_code Language).mpr h.language
  have hread : ∀ apps : List Json,
      (readDocument site (withApps o apps)).result =
        (appsRun site apps).result.map (Plan.withApps ⟨platform, language, version, [], []⟩) ∧
      (readDocument site (withApps o apps)).journal.diagnostics =
        versionNotes o ++ (appsRun site apps).journal.diagnostics := by
    intro apps
    have hv : readVersion (o.insert "apps" (.list apps)) = readVersion o :=
      readVersion_congr (Fields.present?_insert_of_ne (by decide) _ o)
    have hp : (Fields.code Platform (o.insert "apps" (.list apps)) "platform").result =
        .ok platform := by
      rw [Fields.code_result_ok, Fields.present?_insert_of_ne (by decide)]
      exact hplatform
    have hl : (Fields.code Language (o.insert "apps" (.list apps)) "lang").result =
        .ok language := by
      rw [Fields.code_result_ok, Fields.present?_insert_of_ne (by decide)]
      exact hlanguage
    rw [readDocument, withApps, asObject_object, pure_bind, hv, bind_of_ok (readVersion_result_ok.mpr hversion),
      bind_of_ok hp, bind_of_ok hl, readApps_insert, ← readVersion_diagnostics]
    simp only [Fields.code_journal, List.nil_append, Journal.diagnostics_append]
    cases happs : (appsRun site apps).result with
    | error fault =>
      rw [bind_of_error happs]
      exact ⟨rfl, rfl⟩
    | ok read =>
      rw [bind_of_ok happs, Journal.diagnostics_append]
      exact ⟨rfl, congrArg _ (List.append_nil _)⟩
  exact ⟨_, fun apps => (hread apps).1, fun apps => (hread apps).2⟩

/-! ## One app alone -/

def alone (o : Members) (x : Json) : Json := withApps o [x]

/-- The diagnostics of apps, each seen as the first of its document, at the places of the apps. -/
def placed (notes : Json → Diagnostics) (apps : List Json) : Diagnostics :=
  (apps.mapIdx fun i x => (notes x).map (Diagnostic.relocate (moveApp i))).flatten

/-- The diagnostics of an app that is the first of its document. -/
def firstNotes (site : Site) (x : Json) : Diagnostics :=
  (readApp site x).journal.diagnostics.map (Diagnostic.under (.element "apps" 0))

theorem diagnostics_placed (site : Site) (apps : List Json) :
    Journal.diagnostics
      (apps.mapIdx fun i x => (readApp site x).journal.under (.element "apps" i)).flatten =
        placed (firstNotes site) apps := by
  have hmoved : ∀ i, Diagnostic.relocate (moveApp i) ∘ Diagnostic.under (.element "apps" 0) =
      Diagnostic.under (.element "apps" i) := fun i => funext (relocate_under_first i)
  rw [Journal.diagnostics_mapIdx]
  simp only [Journal.diagnostics_under, placed, firstNotes, List.map_map, hmoved]

theorem appsRun_result_ok {read : List App} : (appsRun site apps).result = .ok read ↔
    Placewise (fun _ x a => (readApp site x).result = .ok a) apps read := elements_result_ok

namespace HasRest
variable {p plan : Plan} {x : Json} {fault : Fault}

theorem ok_iff (h : HasRest site o p) : (readDocument site (withApps o apps)).result = .ok plan ↔
    ∃ read, Placewise (fun _ x a => (readApp site x).result = .ok a) apps read ∧
      p.withApps read = plan := by
  simp only [h.result, ← appsRun_result_ok]
  cases (appsRun site apps).result <;> simp [Except.map]

theorem error_iff (h : HasRest site o p) :
    (readDocument site (withApps o apps)).result = .error fault ↔
      (appsRun site apps).result = .error fault := by
  rw [h.result]
  cases (appsRun site apps).result <;> simp [Except.map]

theorem alone_ok_iff (h : HasRest site o p) : (readDocument site (alone o x)).result = .ok plan ↔
    ∃ a, (readApp site x).result = .ok a ∧ p.withApps [a] = plan := by
  rw [alone, h.ok_iff]
  constructor
  · rintro ⟨read, hread, hplan⟩
    obtain ⟨a, rest, rfl, ha, hrest⟩ := Placewise.cons_iff.mp hread
    obtain rfl : rest = [] := List.length_eq_zero_iff.mp hrest.length_eq.symm
    exact ⟨a, ha, hplan⟩
  · rintro ⟨a, ha, hplan⟩
    exact ⟨[a], Placewise.cons_iff.mpr ⟨a, [], rfl, ha, Placewise.nil⟩, hplan⟩

theorem exists_alone_iff (h : HasRest site o p) :
    (∃ plan, (readDocument site (alone o x)).result = .ok plan) ↔
      ∃ a, (readApp site x).result = .ok a := by
  simp only [h.alone_ok_iff]
  constructor
  · rintro ⟨plan, a, ha, -⟩
    exact ⟨a, ha⟩
  · rintro ⟨a, ha⟩
    exact ⟨_, a, ha, rfl⟩

theorem alone_error_iff (h : HasRest site o p) :
    (readDocument site (alone o x)).result = .error fault ↔
      ∃ inner, (readApp site x).result = .error inner ∧
        inner.under (.element "apps" 0) = fault := by
  rw [alone, h.error_iff, appsRun, elements_result_error]
  constructor
  · rintro ⟨k, a, inner, ha, hinner, hfault, -⟩
    have hk : k < 1 := (List.getElem?_eq_some_iff.mp ha).1
    obtain rfl : k = 0 := by omega
    obtain rfl : x = a := Option.some.inj ha
    exact ⟨inner, hinner, hfault⟩
  · rintro ⟨inner, hinner, hfault⟩
    exact ⟨0, x, inner, rfl, hinner, hfault, fun _ _ h => absurd h (Nat.not_lt_zero _)⟩

theorem exists_plan_iff (h : HasRest site o p) :
    (∃ plan, (readDocument site (withApps o apps)).result = .ok plan) ↔
      ∀ x ∈ apps, ∃ plan, (readDocument site (alone o x)).result = .ok plan := by
  simp only [h.exists_alone_iff]
  have hread : (∃ plan, (readDocument site (withApps o apps)).result = .ok plan) ↔
      ∃ read, Placewise (fun _ x a => (readApp site x).result = .ok a) apps read := by
    simp only [h.ok_iff]
    constructor
    · rintro ⟨plan, read, hread, -⟩
      exact ⟨read, hread⟩
    · rintro ⟨read, hread⟩
      exact ⟨_, read, hread, rfl⟩
  rw [hread, exists_placewise]
  constructor
  · intro hall x hx
    obtain ⟨k, hk⟩ := List.mem_iff_getElem?.mp hx
    exact hall k x hk
  · intro hall k x hk
    exact hall x (List.mem_of_getElem? hk)

theorem alone_diagnostics (h : HasRest site o p) (x : Json) :
    (readDocument site (alone o x)).journal.diagnostics = versionNotes o ++ firstNotes site x := by
  rw [alone, h.diagnostics, appsRun, elements_singleton_journal, Journal.diagnostics_under,
    firstNotes]

theorem of_ok (h : HasRest site o p)
    (hplan : (readDocument site (withApps o apps)).result = .ok plan) :
    (∃ plans, Placewise (fun _ x p => (readDocument site (alone o x)).result = .ok p) apps plans ∧
      plan.apps = plans.flatMap Plan.apps ∧ ∀ q ∈ plans, plan = q.withApps plan.apps) ∧
    (readDocument site (withApps o apps)).journal.diagnostics =
      versionNotes o ++ placed (firstNotes site) apps := by
  obtain ⟨read, hread, rfl⟩ := h.ok_iff.mp hplan
  refine ⟨⟨read.map fun a => p.withApps [a], ⟨?_, ?_⟩, ?_, ?_⟩, ?_⟩
  · rw [List.length_map]
    exact hread.length_eq
  · intro k x q hx hq
    rw [List.getElem?_map, Option.map_eq_some_iff] at hq
    obtain ⟨a, ha, hq⟩ := hq
    exact h.alone_ok_iff.mpr ⟨a, hread.related k x a hx ha, hq⟩
  · rw [List.flatMap_map]
    exact (List.flatMap_singleton' read).symm
  · intro q hq
    obtain ⟨a, -, rfl⟩ := List.mem_map.mp hq
    rfl
  · have hall : ∀ k x, apps[k]? = some x → ∃ a, (readApp site x).result = .ok a :=
      exists_placewise.mp ⟨read, hread⟩
    rw [h.diagnostics, appsRun, elements_journal_ok hall, diagnostics_placed]

theorem of_error (h : HasRest site o p) {k : Nat} (hx : apps[k]? = some x)
    (hfault : (readDocument site (alone o x)).result = .error fault)
    (hbefore : ∀ y ∈ apps.take k, ∃ plan, (readDocument site (alone o y)).result = .ok plan) :
    (readDocument site (withApps o apps)).result = .error (fault.relocate (moveApp k)) ∧
    (readDocument site (withApps o apps)).journal.diagnostics =
      versionNotes o ++ placed (firstNotes site) (apps.take (k + 1)) := by
  obtain ⟨inner, hinner, rfl⟩ := h.alone_error_iff.mp hfault
  have hgood : ∀ k' y, k' < k → apps[k']? = some y → ∃ a, (readApp site y).result = .ok a :=
    fun k' y hk' hy => h.exists_alone_iff.mp (forall_mem_take.mp hbefore k' y hk' hy)
  refine ⟨?_, ?_⟩
  · rw [fault_relocate_under_first]
    exact h.error_iff.mpr (elements_result_error.mpr ⟨k, x, inner, hx, hinner, rfl, hgood⟩)
  · rw [h.diagnostics, appsRun, elements_journal_error hx hinner hgood, diagnostics_placed]

end HasRest

/-! ## Documents app by app -/

/-- The diagnostics of the version text: at most one, at its key. -/
structure IsRootNotes (ds : Diagnostics) : Prop where
  length_le : ds.length ≤ 1
  location_eq : ∀ d ∈ ds, d.location = [.field "wolfes_version"]

theorem isRootNotes_versionNotes (o : Members) : IsRootNotes (versionNotes o) := by
  unfold versionNotes
  split
  · next s _ =>
    refine ⟨?_, fun d hd => ?_⟩
    · rw [List.length_map]
      exact Version.notes_length_le s
    · obtain ⟨e, he, rfl⟩ := List.mem_map.mp hd
      exact congrArg _ (Version.mem_notes he).1
  · exact ⟨Nat.zero_le 1, fun d hd => by cases hd⟩

/-- What becomes of apps in one document, said by what becomes of each of them alone. -/
structure Appwise (site : Site) (o : Members) (rootNotes : Diagnostics)
    (notes : Json → Diagnostics) : Prop where
  self : ∀ apps, present? o "apps" = some (.list apps) →
    readDocument site (withApps o apps) = readDocument site (.object o)
  root : IsRootNotes rootNotes
  one : ∀ x, (readDocument site (alone o x)).journal.diagnostics = rootNotes ++ notes x ∧
    ∀ d ∈ notes x, ∃ rest, d.location = .element "apps" 0 :: rest
  exists_plan_iff : ∀ apps, (∃ plan, (readDocument site (withApps o apps)).result = .ok plan) ↔
    ∀ x ∈ apps, ∃ plan, (readDocument site (alone o x)).result = .ok plan
  of_ok : ∀ apps plan, (readDocument site (withApps o apps)).result = .ok plan →
    (∃ plans, Placewise (fun _ x p => (readDocument site (alone o x)).result = .ok p) apps plans ∧
      plan.apps = plans.flatMap Plan.apps ∧ ∀ q ∈ plans, plan = q.withApps plan.apps) ∧
    (readDocument site (withApps o apps)).journal.diagnostics = rootNotes ++ placed notes apps
  /-- The first app that fails alone ends the run, and what stands after it does not matter. -/
  of_error : ∀ (apps : List Json) k x fault, apps[k]? = some x →
    (readDocument site (alone o x)).result = .error fault →
    (∀ y ∈ apps.take k, ∃ plan, (readDocument site (alone o y)).result = .ok plan) →
    (readDocument site (withApps o apps)).result = .error (fault.relocate (moveApp k)) ∧
    (readDocument site (withApps o apps)).journal.diagnostics =
      rootNotes ++ placed notes (apps.take (k + 1))
  /-- Apps may share names, so much so that one may stand in a document again and again. -/
  repeat_ok : ∀ x n, (∃ plan, (readDocument site (alone o x)).result = .ok plan) →
    ∃ plan, (readDocument site (withApps o (List.replicate n x))).result = .ok plan

/-- What a document with several apps ends with and what it leaves is put together from the
documents that have one of the apps alone. -/
theorem appwise_readDocument {site : Site} {o : Members} (hroot : HasRoot o) :
    ∃ rootNotes notes, Appwise site o rootNotes notes := by
  obtain ⟨p, hrest⟩ := hroot.exists_rest site
  refine ⟨versionNotes o, firstNotes site, ?_⟩
  refine
    { self := fun apps => readDocument_withApps_self
      root := isRootNotes_versionNotes o
      one := fun x => ⟨hrest.alone_diagnostics x, fun d hd => ?_⟩
      exists_plan_iff := fun apps => hrest.exists_plan_iff
      of_ok := fun apps plan => hrest.of_ok
      of_error := fun apps k x fault => hrest.of_error
      repeat_ok := fun x n hx => ?_ }
  · obtain ⟨e, -, rfl⟩ := List.mem_map.mp hd
    exact ⟨e.location, rfl⟩
  · refine hrest.exists_plan_iff.mpr fun y hy => ?_
    obtain rfl := List.eq_of_mem_replicate hy
    exact hx

theorem appwise_smallDocument : ∃ o, smallDocument = .object o ∧ HasRoot o ∧
    ∃ rootNotes notes, Appwise smallSite o rootNotes notes := by
  obtain ⟨plan, hplan⟩ := exists_smallPlan
  obtain ⟨o, ho, hmade⟩ := readDocument_result_ok.mp hplan
  have hformed : WellFormedRoot smallSite o := exists_plan.mp ⟨plan, hmade⟩
  have hroot : HasRoot o := ⟨hformed.version, hformed.platform, hformed.language⟩
  exact ⟨o, ho, hroot, appwise_readDocument hroot⟩

end Document
end AppConfig

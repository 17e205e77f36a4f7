import AppConfig.Proofs.Document.Acceptance
import AppConfig.Proofs.Document.Notes
import AppConfig.Proofs.Journal.Leads

/-! # The checks of an object, in the order in which they are made

* `readPart`: the readers of the parts of a document, by their levels; `passes_readPart`: a part
  that is well formed is read and leaves its diagnostics.
* `Check`: one check of an object, with what it asks and what it leaves.
* `checks`: the checks of an object of a level, in order; `Follows`: a run makes them in this order.
* `Fragment`: an object of a document. `Fragment.Passed`, `.notesBefore`: what is asked of it before
  a key is read, and what has been left by then.
* `leads_check`, `leads_read`: reading an object comes to a key if all checks before it pass.
-/

namespace AppConfig.Document
set_option autoImplicit false
open Outcome
open Fields (present?)

variable {α β : Type} {site : Site} {level : Level} {index : Nat} {o : Members} {key : String}

/-! ## Parts -/

/-- What an object of a level is read as. -/
def Made : Level → Type
  | .root => Plan
  | .app => App
  | .node => Node
  | .module => Module
  | .entity .timer => Timer
  | .entity (.endpoint _) => Endpoint

/-- The reader of the objects of a level, which stand at an index of their list. -/
def readPart (site : Site) : (level : Level) → Nat → Members → Outcome (Made level)
  | .root, _, o => readDocument site (.object o)
  | .app, _, o => readApp site (.object o)
  | .node, _, o => readNode site (.object o)
  | .module, _, o => readModule (.object o)
  | .entity .timer, index, o => readTimer index o
  | .entity (.endpoint kind), index, o => readEndpoint site kind index o

def WellFormedPart (site : Site) : Level → Members → Prop
  | .root => WellFormedRoot site
  | .app => WellFormedApp site
  | .node => WellFormedNode site
  | .module => fun _ => True
  | .entity .timer => WellFormedTimer
  | .entity (.endpoint kind) => WellFormedEndpoint site kind

theorem exists_readPart_ok :
    (∃ part, (readPart site level index o).result = .ok part) ↔ WellFormedPart site level o := by
  cases level with
  | root =>
    have hplan : ∀ p, (readDocument site (.object o)).result = .ok p ↔ IsPlan site o p := by
      simp [readDocument_result_ok, Describes]
    exact (exists_congr hplan).trans exists_plan
  | app =>
    have happ : ∀ a, (readApp site (.object o)).result = .ok a ↔ IsApp site o a := by
      simp [readApp_result_ok]
    exact (exists_congr happ).trans exists_app
  | node =>
    have hnode : ∀ n, (readNode site (.object o)).result = .ok n ↔ IsNode site o n := by
      simp [readNode_result_ok]
    exact (exists_congr hnode).trans exists_node
  | module => exact iff_of_true ⟨Module.placeholder, rfl⟩ trivial
  | entity kind =>
    cases kind with
    | timer => exact (exists_congr fun _ => readTimer_result_ok).trans exists_timer
    | endpoint kind => exact (exists_congr fun _ => readEndpoint_result_ok).trans exists_endpoint

theorem leaves_readPart : Leaves (notes level index o) (readPart site level index o) := by
  cases level with
  | root => exact leaves_readDocument (.object o)
  | app => exact leaves_readApp (.object o)
  | node => exact leaves_readNode (.object o)
  | module => exact leaves_readModule index (.object o)
  | entity kind =>
    cases kind with
    | timer => exact leaves_readTimer index o
    | endpoint kind => exact leaves_readEndpoint kind index o

theorem passes_readPart (h : WellFormedPart site level o) :
    Passes (notes level index o) (readPart site level index o) :=
  leaves_readPart.passes (exists_readPart_ok.mpr h)

/-! ## Checks -/

theorem exists_required {IsPart : Nat → Members → β → Prop} {P : Members → Prop}
    (h : ∀ k inner, (∃ part, IsPart k inner part) ↔ P inner) :
    (∃ parts, present? o key ≠ none ∧ IsList o key IsPart parts) ↔ Required o key (IsListOf P) :=
  exists_and_left.trans (exists_required_list h)

/-- One check of an object. -/
structure Check where
  key : String
  /-- What it asks of the object. -/
  holds : Prop
  /-- The diagnostics of an object that is as asked. -/
  notes : Diagnostics
  /-- The run that makes it. -/
  run : Outcome Unit
  accepts : (∃ u, run.result = .ok u) ↔ holds
  leaves : Leaves notes run

namespace Check

theorem passes {c : Check} (h : c.holds) : Passes c.notes c.run :=
  c.leaves.passes (c.accepts.mpr h)

def of (key : String) (holds : Prop) {notes : Diagnostics} (x : Outcome α)
    (haccepts : (∃ a, x.result = .ok a) ↔ holds) (hleaves : Leaves notes x) : Check where
  key := key
  holds := holds
  notes := notes
  run := (fun _ => ()) <$> x
  accepts := by
    rw [← haccepts]
    constructor
    · rintro ⟨u, hu⟩
      obtain ⟨a, ha, -⟩ := map_result_ok.mp hu
      exact ⟨a, ha⟩
    · rintro ⟨a, ha⟩
      exact ⟨(), map_result_ok.mpr ⟨a, ha, rfl⟩⟩
  leaves := by
    rw [← bind_pure_comp]
    exact hleaves.bind_silent fun _ _ => .pure ()

section Fields
variable (site : Site) (o : Members) (key : String)

def version : Check :=
  .of "wolfes_version" (Required o "wolfes_version" IsVersion) (readVersion o)
    ((exists_congr fun _ => readVersion_result_ok).trans exists_version)
    (.of_eq (readVersion_diagnostics o))

def code (α : Type) [Coded α] [LawfulCoded α] : Check :=
  .of key (Required o key (IsCode (Coded.kind α))) (Fields.code α o key)
    ((exists_congr fun _ => Fields.code_result_ok).trans (exists_code α)) (leaves_code α)

def namespaceName : Check :=
  .of "namespace" (Required o "namespace" IsName) (readNamespace o)
    ((exists_congr fun _ => readNamespace_result_ok).trans exists_name) leaves_readNamespace

def domain : Check :=
  .of "domain_id" (Optional o "domain_id" (IsBelow UInt32.size)) (readDomain o)
    ((exists_congr fun _ => readDomain_result_ok).trans exists_domain) leaves_readDomain

def classname : Check :=
  .of "classname" (Required o "classname" IsName) (readClassname o)
    ((exists_congr fun _ => readClassname_result_ok).trans exists_name) leaves_readClassname

def reference : Check :=
  .of key (Optional o key (IsFile site)) (readReference site o key)
    ((exists_congr fun _ => readReference_result_ok).trans exists_reference) leaves_readReference

def text : Check :=
  .of key (Required o key IsText) (Fields.text o key)
    ((exists_congr fun _ => Fields.text_result_ok).trans exists_text) leaves_text

def period : Check :=
  .of "period" (Required o "period" (IsBelow UInt64.size)) (Fields.natural o "period")
    ((exists_congr fun _ => Fields.natural_result_ok).trans exists_natural)
    (.of_silent (Fields.natural_journal o "period"))

def symbol (default : String) (hdefault : Identifier.isValid default = true) : Check :=
  .of key (Optional o key IsName) (readSymbol o key default)
    ((exists_congr fun _ => readSymbol_result_ok).trans (exists_symbol hdefault)) leaves_readSymbol

def unused (feature : String) : Check :=
  .of key (Optional o key (· = .list [])) (refuseItems o key feature)
    ((exists_congr fun _ => refuseItems_result_ok).trans ((exists_const Unit).trans isUnused_iff))
    (leaves_refuseItems feature)

end Fields

section Lists
variable (site : Site) (o : Members)

def apps : Check :=
  .of "apps" (Required o "apps" (IsListOf (WellFormedApp site))) (readApps site o)
    ((exists_congr fun _ => readApps_result_ok).trans (exists_required fun _ _ => exists_app))
    (leaves_list_elements fun _ v => leaves_readApp v)

def nodes : Check :=
  .of "nodes" (Required o "nodes" (IsListOf (WellFormedNode site))) (readNodes site o)
    ((exists_congr fun _ => readNodes_result_ok).trans (exists_required fun _ _ => exists_node))
    (leaves_list_elements fun _ v => leaves_readNode v)

def modules : Check :=
  .of "modules" (Optional o "modules" (IsListOf fun _ => True)) (readModules o)
    ((exists_congr fun _ => readModules_result_ok).trans exists_modules)
    (leaves_optionalList_elements leaves_readModule)

def entities (kind : EntityKind) : Check :=
  .of kind.listKey (Optional o kind.listKey (IsListOf (WellFormedPart site (.entity kind))))
    (readEntities o kind (readPart site (.entity kind)))
    ((exists_congr fun _ => readEntities_result_ok fun _ _ _ => Iff.rfl).trans
      (exists_list fun _ _ => exists_readPart_ok))
    (leaves_readEntities fun _ _ => leaves_readPart)

end Lists
end Check

/-! ## Checks in order -/

/-- The checks of an object of a level, in order. -/
def checks (site : Site) : Level → Nat → Members → List Check
  | .root, _, o => [.version o, .code o "platform" Platform, .code o "lang" Language, .apps site o]
  | .app, _, o =>
    [.namespaceName o, .domain o, .code o "protocol_type" Protocol,
      .reference site o "scheduler_config", .nodes site o, .modules o]
  | .node, _, o =>
    .classname o :: .reference site o "qos_config" ::
      (EntityKind.all.map (Check.entities site o) ++
        [.unused o "action_servers" "action servers", .unused o "action_clients" "action clients"])
  | .module, _, _ => []
  | .entity .timer, index, o =>
    [.symbol o "identifier" _ (EntityKind.isValid_defaultId .timer index),
      .code o "type" TimerClock, .period o,
      .symbol o "cb_function" _ (EntityKind.isValid_defaultFunction .timer index)]
  | .entity (.endpoint kind), index, o =>
    [.symbol o "identifier" _ (EntityKind.isValid_defaultId (.endpoint kind) index),
      .text o kind.channelKey, .text o "message", .code o "msg_type" MessageFormat,
      .reference site o "msg_src",
      .symbol o (EntityKind.endpoint kind).functionKey _
        (EntityKind.isValid_defaultFunction (.endpoint kind) index)]

/-- The run makes the checks one after the other. -/
def Follows (x : Outcome α) (cs : List Check) : Prop :=
  ∀ before c later, cs = before ++ c :: later → (∀ b ∈ before, b.holds) →
    Leads (before.flatMap Check.notes) x c.run

namespace Follows

theorem nil (x : Outcome α) : Follows x [] := by
  intro before c later h
  simp at h

theorem object {f : Members → Outcome β} {cs : List Check} (hf : Follows (f o) cs) :
    Follows (asObject (.object o) >>= f) cs := by
  rwa [asObject_object, pure_bind]

/-- The first part of the run makes the first check. -/
theorem bind {x : Outcome α} {f : α → Outcome β} {c : Check} {cs : List Check}
    (hx : (fun _ => ()) <$> x = c.run) (hf : ∀ a, Follows (f a) cs) :
    Follows (x >>= f) (c :: cs) := by
  intro before c' later hsplit hbefore
  -- The check in question is the one made here, or it is made by what comes behind.
  cases before with
  | nil =>
    obtain ⟨rfl, rfl⟩ := List.cons.inj hsplit
    rw [← hx]
    exact (Leads.first x f).trans (.of_map _ x)
  | cons b before =>
    obtain ⟨rfl, rfl⟩ := List.cons.inj hsplit
    obtain ⟨⟨⟩, hrun⟩ := Check.passes (hbefore c List.mem_cons_self)
    rw [← hx] at hrun
    obtain ⟨a, ha, -⟩ := map_result_ok.mp hrun.result
    have hnotes : x.journal.diagnostics = c.notes := by rw [← hrun.diagnostics, map_journal]
    have hshows : Shows (.ok a) c.notes x := ⟨ha, hnotes⟩
    rw [List.flatMap_cons]
    exact .after_shows hshows
      (hf a before c' later rfl fun b hb => hbefore b (List.mem_cons_of_mem c hb))

end Follows

theorem follows_readPart : Follows (readPart site level index o) (checks site level index o) := by
  cases level with
  | root =>
    refine .object ?_
    refine .bind rfl fun version => ?_
    refine .bind rfl fun platform => ?_
    refine .bind rfl fun language => ?_
    exact .bind rfl fun apps => .nil _
  | app =>
    refine .object ?_
    refine .bind rfl fun name => ?_
    refine .bind rfl fun domainId => ?_
    refine .bind rfl fun protocol => ?_
    refine .bind rfl fun schedulerConfig => ?_
    refine .bind (map_unit_listen _) fun nodes => ?_
    exact .bind rfl fun modules => .nil _
  | node =>
    refine .object ?_
    refine .bind rfl fun classname => ?_
    refine .bind rfl fun qosConfig => ?_
    refine .bind rfl fun timers => ?_
    refine .bind rfl fun topicPubs => ?_
    refine .bind rfl fun topicSubs => ?_
    refine .bind rfl fun serviceServers => ?_
    refine .bind rfl fun serviceClients => ?_
    refine .bind rfl fun _ => ?_
    exact .bind rfl fun _ => .nil _
  | module => exact .nil _
  | entity kind =>
    cases kind with
    | timer =>
      refine .bind rfl fun id => ?_
      refine .bind rfl fun clock => ?_
      refine .bind rfl fun period => ?_
      exact .bind rfl fun callback => .nil _
    | endpoint kind =>
      refine .bind rfl fun id => ?_
      refine .bind rfl fun channel => ?_
      -- The message is read between the fields of the endpoint, with checks of its own.
      rw [readMessage]
      simp only [bind_assoc, pure_bind]
      refine .bind rfl fun name => ?_
      refine .bind rfl fun format => ?_
      refine .bind rfl fun source => ?_
      exact .bind rfl fun function => .nil _

/-! ## Up to a key -/

/-- An object of a document: its level, its index in its list, and its members. -/
structure Fragment where
  level : Level
  index : Nat
  members : Members

namespace Fragment
variable (site : Site) (a : Fragment)

def read : Outcome (Made a.level) := readPart site a.level a.index a.members

def checks : List Check := Document.checks site a.level a.index a.members

/-- What is asked of the object before the key holds. -/
def Passed (key : String) : Prop := ∀ c ∈ (a.checks site).takeWhile (·.key ≠ key), c.holds

def notesBefore (key : String) : Diagnostics :=
  ((a.checks site).takeWhile (·.key ≠ key)).flatMap Check.notes

end Fragment

/-- If all checks before a key pass, reading the object comes to the check of the key. -/
theorem leads_check {a : Fragment} {c : Check} (hc : (a.checks site).find? (·.key = key) = some c)
    (hpassed : a.Passed site key) : Leads (a.notesBefore site key) (a.read site) c.run := by
  obtain ⟨hkey, before, later, hsplit, hbefore⟩ := List.find?_eq_some_iff_append.mp hc
  have htake : (a.checks site).takeWhile (·.key ≠ key) = before := by
    have hothers : ∀ b ∈ before, decide (b.key ≠ key) = true := by simpa using hbefore
    have hstop : (c :: later).takeWhile (·.key ≠ key) = [] :=
      List.takeWhile_cons_of_neg (by simpa using hkey)
    rw [hsplit, List.takeWhile_append_of_pos hothers, hstop, List.append_nil]
  rw [Fragment.Passed, htake] at hpassed
  rw [Fragment.notesBefore, htake]
  exact follows_readPart before c later hsplit hpassed

theorem leads_read {a : Fragment} {c : Check} {x : Outcome α} {y : Outcome β} {later : Diagnostics}
    (hc : (a.checks site).find? (·.key = key) = some c) (hrun : c.run = (fun _ => ()) <$> x)
    (hpassed : a.Passed site key) (hx : Leads later x y) :
    Leads (a.notesBefore site key ++ later) (a.read site) y := by
  have hcheck := leads_check hc hpassed
  rw [hrun] at hcheck
  exact hcheck.trans ((Leads.map _ x).trans hx)

end AppConfig.Document

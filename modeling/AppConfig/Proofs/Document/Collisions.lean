import Mathlib.Data.List.Nodup
import Mathlib.Data.List.Perm.Basic
import AppConfig.Proofs.Document.Acceptance
import AppConfig.Proofs.Document.Counts
import AppConfig.Proofs.Journal.Lists
import AppConfig.Proofs.Naming.Distinct

/-! # Names that collide

* `declaredNames`: the names that an app declares; `Omits`: a node leaves a name to a default.
* `mem_repeated_appNames`: if the declared names are distinct and no defaults, the names that an
  app has twice are those that two of its nodes leave to a default.
* `givesRepeated_readApp`: an app is refused for the names that its nodes have twice.
* `collisions_of_readDocument`: a document is refused for the names of such an app only if two nodes
  of the app leave the same name to a default.

Defaults are counted within the lists of a node, and names are compared within the app.
-/

namespace AppConfig.Document
set_option autoImplicit false
open Outcome
open Fields (present? objectsAt membersOf FailsAt)

variable {α β : Type} {site : Site} {o : Members} {key default name : String}

/-! ## Names that are declared, and names that are not -/

def declaredAt (o : Members) (key : String) : List String :=
  match present? o key with
  | some (.string s) => [s]
  | _ => []

def defaultAt (o : Members) (key default : String) : List String :=
  match present? o key with
  | some (.string _) => []
  | _ => [default]

def entityDeclared (kind : EntityKind) (o : Members) : List String :=
  declaredAt o "identifier" ++ declaredAt o kind.functionKey

def entityDefaults (kind : EntityKind) (index : Nat) (o : Members) : List String :=
  defaultAt o "identifier" (kind.defaultId index) ++
    defaultAt o kind.functionKey (kind.defaultFunction index)

def nodeDeclared (o : Members) : List String :=
  declaredAt o "classname" ++
    EntityKind.all.flatMap fun kind => (objectsAt o kind.listKey).flatMap (entityDeclared kind)

def nodeDefaults (o : Members) : List String :=
  EntityKind.all.flatMap fun kind =>
    ((objectsAt o kind.listKey).mapIdx (entityDefaults kind)).flatten

/-- The names that an app declares: those of classes, entities and functions. -/
def declaredNames (app : Members) : List String := (objectsAt app "nodes").flatMap nodeDeclared

/-- An entity of the node has no name of its own where the name would be. -/
inductive Omits (node : Members) : String → Prop
  | id (kind : EntityKind) (index : Nat) (entity : Members)
    (place : (objectsAt node kind.listKey)[index]? = some entity)
    (absent : present? entity "identifier" = none) : Omits node (kind.defaultId index)
  | function (kind : EntityKind) (index : Nat) (entity : Members)
    (place : (objectsAt node kind.listKey)[index]? = some entity)
    (absent : present? entity kind.functionKey = none) : Omits node (kind.defaultFunction index)

theorem nameOr_eq (o : Members) (key default : String) :
    [nameOr o key default] = declaredAt o key ++ defaultAt o key default := by
  unfold nameOr declaredAt defaultAt
  split <;> simp_all

theorem entityNames_perm (kind : EntityKind) (index : Nat) (o : Members) :
    (entityNames kind index o).Perm (entityDeclared kind o ++ entityDefaults kind index o) := by
  have hpair : entityNames kind index o = [nameOr o "identifier" (kind.defaultId index)] ++
      [nameOr o kind.functionKey (kind.defaultFunction index)] := rfl
  rw [hpair, nameOr_eq, nameOr_eq, List.perm_iff_count]
  intro n
  simp only [entityDeclared, entityDefaults, List.count_append]
  omega

theorem nodeNames_perm {n : Node} (h : IsNode site o n) :
    (nodeNames o).Perm (nodeDeclared o ++ nodeDefaults o) := by
  have hclass : [nameOr o "classname" ""] = declaredAt o "classname" := by
    rw [nameOr, declaredAt, h.classname]
  have hlists : (EntityKind.all.flatMap fun kind =>
      ((objectsAt o kind.listKey).mapIdx (entityNames kind)).flatten).Perm
        ((EntityKind.all.flatMap fun kind =>
          (objectsAt o kind.listKey).flatMap (entityDeclared kind)) ++ nodeDefaults o) := by
    refine .trans (.flatMap_left _ fun kind _ => ?_) (List.flatMap_append_perm _ _ _).symm
    exact perm_mapIdx_flatten fun index inner _ => entityNames_perm kind index inner
  rw [nodeNames, ← List.singleton_append, hclass, nodeDeclared, List.append_assoc]
  exact hlists.append_left _

theorem appNames_perm (h : ∀ node ∈ objectsAt o "nodes", ∃ n, IsNode site node n) :
    (appNames o).Perm (declaredNames o ++ (objectsAt o "nodes").flatMap nodeDefaults) := by
  refine .trans (.flatMap_left _ fun node hnode => ?_) (List.flatMap_append_perm _ _ _).symm
  obtain ⟨n, hn⟩ := h node hnode
  exact nodeNames_perm hn

/-! ## Defaults within a node -/

theorem isDefault_of_mem {kind : EntityKind} {index : Nat}
    (h : name ∈ entityDefaults kind index o) : kind.IsDefault index name := by
  have hkey : ∀ {key default : String}, name ∈ defaultAt o key default → name = default := by
    intro key default hname
    unfold defaultAt at hname
    split at hname
    · cases hname
    · exact List.mem_singleton.mp hname
  rcases List.mem_append.mp h with h | h
  · exact .inl (hkey h)
  · exact .inr (hkey h)

theorem nodup_entityDefaults (kind : EntityKind) (index : Nat) (o : Members) :
    (entityDefaults kind index o).Nodup := by
  have hsub : ∀ key default, (defaultAt o key default).Sublist [default] := by
    intro key default
    unfold defaultAt
    split
    · exact List.nil_sublist _
    · exact List.Sublist.refl _
  have hpair : [kind.defaultId index, kind.defaultFunction index].Nodup := by
    simp [EntityKind.defaultId_ne_defaultFunction]
  exact hpair.sublist ((hsub _ _).append (hsub _ _))

theorem nodup_nodeDefaults (o : Members) : (nodeDefaults o).Nodup := by
  refine List.nodup_flatMap.mpr ⟨fun kind _ => List.nodup_flatten.mpr ⟨?_, ?_⟩, ?_⟩
  · intro names hnames
    obtain ⟨index, hindex, rfl⟩ := List.mem_mapIdx.mp hnames
    exact nodup_entityDefaults kind index _
  · -- Entities of one kind differ in the index.
    rw [List.pairwise_iff_getElem]
    intro i j hi hj hij n hn hn'
    rw [List.getElem_mapIdx] at hn hn'
    have hsame := (isDefault_of_mem hn).unique (isDefault_of_mem hn')
    omega
  · -- Entities of different lists differ in the kind.
    have hkinds : EntityKind.all.Nodup := by decide
    have hmem : ∀ kind, ∀ n ∈ ((objectsAt o kind.listKey).mapIdx (entityDefaults kind)).flatten,
        ∃ index, EntityKind.IsDefault kind index n := by
      intro kind n hn
      obtain ⟨names, hnames, hn⟩ := List.mem_flatten.mp hn
      obtain ⟨index, hindex, rfl⟩ := List.mem_mapIdx.mp hnames
      exact ⟨index, isDefault_of_mem hn⟩
    refine hkinds.imp fun {kind kind'} hne n hn hn' => ?_
    obtain ⟨i, hi⟩ := hmem kind n hn
    obtain ⟨j, hj⟩ := hmem kind' n hn'
    exact hne (hi.unique hj).1

theorem IsNode.exists_symbols {n : Node} (h : IsNode site o n) {kind : EntityKind} {index : Nat}
    {entity : Members} (hentity : (objectsAt o kind.listKey)[index]? = some entity) :
    (∃ id, IsSymbol entity "identifier" (kind.defaultId index) id) ∧
      ∃ function, IsSymbol entity kind.functionKey (kind.defaultFunction index) function := by
  cases kind with
  | timer =>
    obtain ⟨t, -, ht⟩ := h.timers.placewise.exists_part hentity
    exact ⟨⟨_, ht.id⟩, _, ht.callback⟩
  | endpoint kind =>
    obtain ⟨e, -, he⟩ := (h.endpoints kind).placewise.exists_part hentity
    exact ⟨⟨_, he.id⟩, _, he.function⟩

theorem IsSymbol.mem_defaultAt {name' : String} (h : IsSymbol o key default name') :
    name ∈ defaultAt o key default ↔ name = default ∧ present? o key = none := by
  obtain ⟨declared, hkey, -⟩ := h.declared
  rw [defaultAt, hkey]
  cases declared <;> simp

theorem mem_nodeDefaults_iff : name ∈ nodeDefaults o ↔ ∃ kind index entity,
    (objectsAt o (EntityKind.listKey kind))[index]? = some entity ∧
      name ∈ entityDefaults kind index entity := by
  simp only [nodeDefaults, List.mem_flatMap, List.mem_flatten, List.mem_mapIdx]
  constructor
  · rintro ⟨kind, -, _, ⟨index, hindex, rfl⟩, hname⟩
    exact ⟨kind, index, _, List.getElem?_eq_getElem hindex, hname⟩
  · rintro ⟨kind, index, entity, hplace, hname⟩
    obtain ⟨hindex, rfl⟩ := List.getElem?_eq_some_iff.mp hplace
    exact ⟨kind, kind.mem_all, _, ⟨index, hindex, rfl⟩, hname⟩

theorem IsNode.mem_nodeDefaults {n : Node} (h : IsNode site o n) :
    name ∈ nodeDefaults o ↔ Omits o name := by
  rw [mem_nodeDefaults_iff]
  constructor
  · rintro ⟨kind, index, entity, hplace, hname⟩
    obtain ⟨⟨id, hid⟩, function, hfunction⟩ := h.exists_symbols hplace
    rcases List.mem_append.mp hname with hname | hname
    · obtain ⟨rfl, habsent⟩ := hid.mem_defaultAt.mp hname
      exact .id kind index _ hplace habsent
    · obtain ⟨rfl, habsent⟩ := hfunction.mem_defaultAt.mp hname
      exact .function kind index _ hplace habsent
  · intro homits
    cases homits with
    | id kind index entity hplace habsent =>
      obtain ⟨⟨id, hid⟩, -⟩ := h.exists_symbols hplace
      have hname := hid.mem_defaultAt.mpr ⟨rfl, habsent⟩
      exact ⟨kind, index, entity, hplace, List.mem_append_left _ hname⟩
    | function kind index entity hplace habsent =>
      obtain ⟨-, function, hfunction⟩ := h.exists_symbols hplace
      have hname := hfunction.mem_defaultAt.mpr ⟨rfl, habsent⟩
      exact ⟨kind, index, entity, hplace, List.mem_append_right _ hname⟩

/-! ## Names that two nodes leave to a default -/

def IsDefaultName (name : String) : Prop := ∃ kind index, EntityKind.IsDefault kind index name

theorem Omits.isDefaultName (h : Omits o name) : IsDefaultName name := by
  cases h with
  | id kind index => exact ⟨kind, index, .inl rfl⟩
  | function kind index => exact ⟨kind, index, .inr rfl⟩

/-- Two nodes of the app leave the name to a default. -/
def OmittedTwice (app : Members) (name : String) : Prop :=
  ∃ (i j : Nat) (node node' : Members), i < j ∧ (objectsAt app "nodes")[i]? = some node ∧
    (objectsAt app "nodes")[j]? = some node' ∧ Omits node name ∧ Omits node' name

theorem mem_repeated_appNames (h : ∀ node ∈ objectsAt o "nodes", ∃ n, IsNode site node n)
    (hdistinct : (declaredNames o).Nodup)
    (hdefault : ∀ name ∈ declaredNames o, ¬ IsDefaultName name) :
    name ∈ repeated (appNames o) ↔ OmittedTwice o name := by
  have hdefaults : ∀ node ∈ objectsAt o "nodes", (nodeDefaults node).Nodup :=
    fun node _ => nodup_nodeDefaults node
  have hcount := (appNames_perm h).count_eq name
  have homits : ∀ {i : Nat} {node : Members}, (objectsAt o "nodes")[i]? = some node →
      (name ∈ nodeDefaults node ↔ Omits node name) := by
    intro i node hi
    obtain ⟨n, hn⟩ := h node (List.mem_of_getElem? hi)
    exact hn.mem_nodeDefaults
  have htwice : 2 ≤ ((objectsAt o "nodes").flatMap nodeDefaults).count name ↔
      OmittedTwice o name := by
    rw [two_le_count_flatMap hdefaults]
    constructor
    · rintro ⟨i, j, node, node', hij, hi, hj, hname, hname'⟩
      exact ⟨i, j, node, node', hij, hi, hj, (homits hi).mp hname, (homits hj).mp hname'⟩
    · rintro ⟨i, j, node, node', hij, hi, hj, hname, hname'⟩
      exact ⟨i, j, node, node', hij, hi, hj, (homits hi).mpr hname, (homits hj).mpr hname'⟩
  rw [List.count_append] at hcount
  rw [mem_repeated, hcount, ← htwice]
  by_cases hname : name ∈ declaredNames o
  · -- A declared name stands once, and no node leaves it to a default.
    have hone := List.nodup_iff_count.mp hdistinct name
    have hnone : ((objectsAt o "nodes").flatMap nodeDefaults).count name = 0 := by
      rw [List.count_eq_zero]
      intro hmem
      obtain ⟨node, hnode, hmem⟩ := List.mem_flatMap.mp hmem
      obtain ⟨n, hn⟩ := h node hnode
      exact hdefault name hname (hn.mem_nodeDefaults.mp hmem).isDefaultName
    omega
  · rw [List.count_eq_zero_of_not_mem hname, Nat.zero_add]

/-! ## What an app is refused for -/

/-- The run does not fail at the part itself that it reads. -/
def FailsInside (x : Outcome α) : Prop := FaultsIn (fun fault => fault.location? ≠ some []) x

theorem failsInside_of_failsAt {x : Outcome α} (h : FailsAt key x) : FailsInside x := by
  intro fault hfault heq
  cases (h fault hfault).symm.trans heq

theorem failsInside_elements (key : String) (items : List α) (f : Nat → α → Outcome β) :
    FailsInside (elements key items f) := by
  refine .elements fun k a _ fault _ heq => ?_
  rw [Fault.under, Fault.location?_relocate, Option.map_eq_some_iff] at heq
  obtain ⟨l, -, hl⟩ := heq
  cases hl

theorem failsAt_readNamespace : FailsAt "namespace" (readNamespace o) := by
  refine .bind Fields.failsAt_text fun name _ => ?_
  split
  · exact .pure name
  · exact .fail rfl

theorem failsAt_readDomain : FailsAt "domain_id" (readDomain o) := by
  refine .bind Fields.failsAt_optionalNatural32 fun declared _ => ?_
  cases declared with
  | some id => exact .pure id
  | none => exact .bind (.note _) fun _ _ => .pure 0

theorem failsInside_readReference : FailsInside (readReference site o key) := by
  intro fault hfault heq
  cases location_of_readReference fault hfault [] heq

theorem failsInside_readNodes : FailsInside (readNodes site o) :=
  .bind (failsInside_of_failsAt Fields.failsAt_list) fun _ _ => failsInside_elements _ _ _

theorem failsInside_readModules : FailsInside (readModules o) :=
  .bind (failsInside_of_failsAt Fields.failsAt_optionalList) fun _ _ => failsInside_elements _ _ _

/-- A fault about the names of an app gives those that its nodes, all of them good, have twice. -/
def GivesRepeated (site : Site) (o : Members) (fault : Fault) : Prop :=
  ∀ names, fault = .duplicateIdentifiers [] names → ∃ nodes, (readNodes site o).result = .ok nodes ∧
    names = repeated (nodes.flatMap Node.names) ∧ names ≠ []

theorem FailsInside.givesRepeated {x : Outcome α} (h : FailsInside x) :
    FaultsIn (GivesRepeated site o) x := by
  intro fault hfault names hnames
  rw [hnames] at hfault
  exact absurd rfl (h _ hfault)

theorem givesRepeated_at {x : Outcome α} (h : FailsAt key x) : FaultsIn (GivesRepeated site o) x :=
  (failsInside_of_failsAt h).givesRepeated

theorem givesRepeated_check {nodes : List Node} (h : (readNodes site o).result = .ok nodes) :
    FaultsIn (GivesRepeated site o)
      (.ofExcept ((Registry.mk (readNodes site o).journal.registered).check .root)) := by
  intro fault hfault names hnames
  have hregistered : (readNodes site o).journal.registered = nodes.flatMap Node.names :=
    registers_readNodes site o nodes h
  rw [hregistered] at hfault
  obtain ⟨hrepeated, rfl⟩ := Registry.check_eq_error.mp hfault
  obtain rfl : repeated (nodes.flatMap Node.names) = names := by
    injection hnames
  exact ⟨nodes, h, rfl, fun hnil => hrepeated (repeated_eq_nil.mp hnil)⟩

theorem givesRepeated_readApp (o : Members) :
    FaultsIn (GivesRepeated site o) (readApp site (.object o)) := by
  refine .bind (.pure o) fun o' ho' => ?_
  obtain rfl : o = o' := Except.ok.inj ho'
  refine .bind (givesRepeated_at failsAt_readNamespace) fun name _ => ?_
  refine .bind (givesRepeated_at failsAt_readDomain) fun domainId _ => ?_
  refine .bind (givesRepeated_at (Fields.failsAt_code Protocol)) fun protocol _ => ?_
  refine .bind failsInside_readReference.givesRepeated fun schedulerConfig _ => ?_
  refine .bind (.listen failsInside_readNodes.givesRepeated) fun ⟨nodes, journal⟩ hnodes => ?_
  refine .bind failsInside_readModules.givesRepeated fun modules _ => ?_
  obtain ⟨hread, rfl⟩ := listen_result_ok.mp hnodes
  exact .bind (givesRepeated_check hread) fun _ _ => .bind (.log _) fun _ _ => .pure _

/-! ## What a document is refused for -/

/-- A fault at an app is that of the app. -/
def ComesFrom (site : Site) (o : Members) (fault : Fault) : Prop :=
  ∀ i, fault.location? = some [.element "apps" i] → ∃ items x inner,
    present? o "apps" = some (.list items) ∧ items[i]? = some x ∧
      (readApp site x).result = .error inner ∧ inner.under (.element "apps" i) = fault

theorem comesFrom_at {x : Outcome α} (h : FailsAt key x) : FaultsIn (ComesFrom site o) x := by
  intro fault hfault i hi
  cases (h fault hfault).symm.trans hi

theorem location_of_readVersion (i : Nat) (l : Location) :
    FaultsIn (fun fault => fault.location? ≠ some (.element "apps" i :: l)) (readVersion o) := by
  refine .bind (fun fault hfault hi => ?_) fun text _ fault hfault hi => ?_
  · cases (Fields.failsAt_text fault hfault).symm.trans hi
  · obtain ⟨inner, hinner, rfl⟩ := under_result_error.mp hfault
    obtain ⟨-, rfl⟩ := Version.ofText_result_error.mp hinner
    cases hi

theorem comesFrom_readVersion : FaultsIn (ComesFrom site o) (readVersion o) :=
  fun fault hfault i hi => absurd hi (location_of_readVersion i [] fault hfault)

theorem comesFrom_readApps : FaultsIn (ComesFrom site o) (readApps site o) := by
  refine .bind (comesFrom_at Fields.failsAt_list) fun items hitems fault hfault i hi => ?_
  obtain ⟨k, x, inner, hx, hinner, rfl, -⟩ := elements_result_error.mp hfault
  have hk : k = i := by
    rw [Fault.under, Fault.location?_relocate, Option.map_eq_some_iff] at hi
    obtain ⟨l, -, hl⟩ := hi
    simpa using (List.cons.inj hl).1
  obtain rfl := hk
  exact ⟨items, x, inner, Fields.list_result_ok.mp hitems, hx, hinner, rfl⟩

theorem comesFrom_readDocument (o : Members) :
    FaultsIn (ComesFrom site o) (readDocument site (.object o)) := by
  refine .bind (.pure o) fun o' ho' => ?_
  obtain rfl : o = o' := Except.ok.inj ho'
  refine .bind comesFrom_readVersion fun version _ => ?_
  refine .bind (comesFrom_at (Fields.failsAt_code Platform)) fun platform _ => ?_
  refine .bind (comesFrom_at (Fields.failsAt_code Language)) fun language _ => ?_
  exact .bind comesFrom_readApps fun apps _ => .bind (.log _) fun _ _ => .pure _

theorem eq_duplicates_of_under {s t : Segment} {fault : Fault} {names : List String}
    (h : fault.under s = .duplicateIdentifiers [t] names) :
    s = t ∧ fault = .duplicateIdentifiers [] names := by
  cases fault <;> simp_all [Fault.under, Fault.relocate]

theorem readApp_of_readDocument {doc : Json} {i : Nat} {app : Members} {names : List String}
    (happ : (appObjects doc)[i]? = some app)
    (h : (readDocument site doc).result =
      .error (.duplicateIdentifiers [.element "apps" i] names)) :
    (readApp site (.object app)).result = .error (.duplicateIdentifiers [] names) := by
  cases doc with
  | object o =>
    obtain ⟨items, x, inner, hitems, hx, hinner, hunder⟩ :=
      comesFrom_readDocument o _ h i rfl
    obtain ⟨-, rfl⟩ := eq_duplicates_of_under hunder
    have hobjects : appObjects (.object o) = items.map membersOf := by
      rw [appObjects, membersOf, objectsAt, hitems]
    rw [hobjects, List.getElem?_map, hx] at happ
    obtain rfl : membersOf x = app := Option.some.inj happ
    cases x with
    | object app => exact hinner
    | _ => cases hinner
  | _ => cases h

section Collisions
variable {doc : Json} {i : Nat} {app : Members}

/-- The names that such an app is refused for are those that two of its nodes leave to a default,
and there is one. -/
theorem omittedTwice_of_readDocument {names : List String}
    (happ : (appObjects doc)[i]? = some app) (hdistinct : (declaredNames app).Nodup)
    (hdefault : ∀ name ∈ declaredNames app, ¬ IsDefaultName name)
    (h : (readDocument site doc).result =
      .error (.duplicateIdentifiers [.element "apps" i] names)) :
    names ≠ [] ∧ ∀ name, name ∈ names ↔ OmittedTwice app name := by
  obtain ⟨nodes, hread, rfl, hnames⟩ :=
    givesRepeated_readApp app _ (readApp_of_readDocument happ h) _ rfl
  obtain ⟨-, hnodes⟩ := readNodes_result_ok.mp hread
  have hmade : ∀ node ∈ objectsAt app "nodes", ∃ n, IsNode site node n := by
    intro node hnode
    obtain ⟨k, hk⟩ := List.mem_iff_getElem?.mp hnode
    obtain ⟨n, -, hn⟩ := hnodes.placewise.exists_part hk
    exact ⟨n, hn⟩
  refine ⟨hnames, fun name => ?_⟩
  rw [← hnodes.appNames_eq]
  exact mem_repeated_appNames hmade hdistinct hdefault

/-- Let the names that an app declares be distinct and no default names. Then a document is not
refused for names that the app repeats unless two nodes of the app leave the same name to a default,
and it is refused for such names alone. -/
theorem collisions_of_readDocument {site : Site} (happ : (appObjects doc)[i]? = some app)
    (hdistinct : (declaredNames app).Nodup)
    (hdefault : ∀ name ∈ declaredNames app, ¬ IsDefaultName name) :
    ((∀ name, ¬ OmittedTwice app name) → ∀ names, (readDocument site doc).result ≠
      .error (.duplicateIdentifiers [.element "apps" i] names)) ∧
    ∀ names, (readDocument site doc).result =
      .error (.duplicateIdentifiers [.element "apps" i] names) →
        ∀ name, name ∈ names ↔ OmittedTwice app name := by
  refine ⟨fun hnone names hread => ?_, fun names hread => ?_⟩
  · obtain ⟨hnames, hmem⟩ := omittedTwice_of_readDocument happ hdistinct hdefault hread
    obtain ⟨name, hname⟩ := List.exists_mem_of_ne_nil names hnames
    exact hnone name ((hmem name).mp hname)
  · exact (omittedTwice_of_readDocument happ hdistinct hdefault hread).2

end Collisions

/-! ## Two nodes with a timer each

The timers are the first of their nodes and have no names of their own. -/

def namelessTimer : Members := [("type", .int 0), ("period", .int 10)]

def timerNode (classname : String) : Members :=
  [("classname", .string classname), ("timers", .list [.object namelessTimer])]

def twinApp : Members :=
  [("namespace", .string "demo"), ("protocol_type", .int 0),
   ("nodes", .list [.object (timerNode "First"), .object (timerNode "Second")])]

def twinDocument : Json :=
  .object [("wolfes_version", .string "0.7.0"), ("platform", .int 0), ("lang", .int 0),
    ("apps", .list [.object twinApp])]

theorem readDocument_twinDocument : (readDocument smallSite twinDocument).result =
    .error (.duplicateIdentifiers [.element "apps" 0] ["__Timer0Cb", "_timer_0"]) := rfl

theorem declaredNames_twinApp : declaredNames twinApp = ["First", "Second"] := rfl

theorem twinApp_distinct : (declaredNames twinApp).Nodup := by
  rw [declaredNames_twinApp]
  decide

theorem twinApp_default : ∀ name ∈ declaredNames twinApp, ¬ IsDefaultName name := by
  rw [declaredNames_twinApp]
  rintro name hname ⟨kind, index, hdefault⟩
  have hhead : ∀ name ∈ ["First", "Second"], name.toList.head? ≠ some '_' := by decide
  exact hhead name hname hdefault.head

theorem collisions_of_twinDocument : (appObjects twinDocument)[0]? = some twinApp ∧
    ∀ name, name ∈ ["__Timer0Cb", "_timer_0"] ↔ OmittedTwice twinApp name := by
  have happ : (appObjects twinDocument)[0]? = some twinApp := rfl
  refine ⟨happ, ?_⟩
  exact (collisions_of_readDocument happ twinApp_distinct twinApp_default).2 _
    readDocument_twinDocument

/-- Good names that are distinct and no defaults do not keep a document from being refused for
repeated names, if others are left to defaults. -/
theorem exists_collision : ¬ ∀ (site : Site) (doc : Json) (i : Nat) (app : Members),
    (appObjects doc)[i]? = some app →
      (∀ name ∈ declaredNames app, Identifier.isValid name = true) → (declaredNames app).Nodup →
        (∀ name ∈ declaredNames app, ¬ IsDefaultName name) →
          ∀ names, (readDocument site doc).result ≠
            .error (.duplicateIdentifiers [.element "apps" i] names) := by
  intro h
  have hvalid : ∀ name ∈ declaredNames twinApp, Identifier.isValid name = true := by
    rw [declaredNames_twinApp]
    decide +kernel
  exact h smallSite twinDocument 0 twinApp rfl hvalid twinApp_distinct twinApp_default _
    readDocument_twinDocument

end AppConfig.Document

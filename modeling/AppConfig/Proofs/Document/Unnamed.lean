import AppConfig.Proofs.Document.Collisions
import AppConfig.Proofs.Document.Registered

/-! # Nodes without names of their own

* `LeavesNames`: no entity of a node declares its id or its function.
* `IsNode.names_perm`: such a node has the name of its class and all of its defaults.
* `IsNode.nodup_names_iff`: it has a name twice only if its class has the name of a default.
* `RepeatsNothing`: a node has no part in the names that its app repeats.
* `generated_names`: defaults are identifiers and distinct, and such a node repeats nothing.
-/

namespace AppConfig.Document
set_option autoImplicit false
open Fields (present? objectsAt)

variable {site : Site} {o : Members} {n : Node}

/-- Every entity of the node omits its identifier and its function. -/
def LeavesNames (o : Members) : Prop :=
  ∀ kind, ∀ entity ∈ objectsAt o (EntityKind.listKey kind),
    present? entity "identifier" = none ∧ present? entity kind.functionKey = none

theorem declaredAt_of_absent {key : String} (h : present? o key = none) : declaredAt o key = [] := by
  rw [declaredAt, h]

theorem nodeDeclared_of_leavesNames (h : LeavesNames o) :
    nodeDeclared o = declaredAt o "classname" := by
  have hentities : ∀ kind ∈ EntityKind.all,
      (objectsAt o kind.listKey).flatMap (entityDeclared kind) = [] := by
    refine fun kind _ => List.flatMap_eq_nil_iff.mpr fun entity hentity => ?_
    obtain ⟨hid, hfunction⟩ := h kind entity hentity
    rw [entityDeclared, declaredAt_of_absent hid, declaredAt_of_absent hfunction]
    rfl
  rw [nodeDeclared, List.flatMap_eq_nil_iff.mpr hentities, List.append_nil]

theorem IsNode.declaredAt_classname (h : IsNode site o n) :
    declaredAt o "classname" = [n.classname] := by
  rw [declaredAt, h.classname]

theorem IsNode.names_perm (h : IsNode site o n) (hleaves : LeavesNames o) :
    n.names.Perm (n.classname :: nodeDefaults o) := by
  have hnames := nodeNames_perm h
  rw [nodeDeclared_of_leavesNames hleaves, h.declaredAt_classname, h.names] at hnames
  exact hnames

theorem IsNode.nodup_names_iff (h : IsNode site o n) (hleaves : LeavesNames o) :
    n.names.Nodup ↔ ¬ Omits o n.classname := by
  rw [(h.names_perm hleaves).nodup_iff, List.nodup_cons, h.mem_nodeDefaults]
  exact and_iff_left (nodup_nodeDefaults o)

/-- The node registers no name twice, adds no repetition to names that have none in common with its
own, and is no reason to refuse an app in which it is alone. -/
structure RepeatsNothing (site : Site) (o : Members) : Prop where
  distinct : ∀ n, (readNode site (.object o)).result = .ok n →
    (readNode site (.object o)).journal.registered.Nodup
  beside : ∀ n, (readNode site (.object o)).result = .ok n → ∀ before after : List String,
    (readNode site (.object o)).journal.registered.Disjoint (before ++ after) →
      (Registry.mk (before ++ (readNode site (.object o)).journal.registered ++
        after)).duplicates = (Registry.mk (before ++ after)).duplicates
  alone : ∀ app names, objectsAt app "nodes" = [o] →
    (readApp site (.object app)).result ≠ .error (.duplicateIdentifiers [] names)

theorem IsNode.nodup_names (h : IsNode site o n) (hleaves : LeavesNames o)
    (hclass : ∀ name ∈ declaredAt o "classname", ¬ IsDefaultName name) : n.names.Nodup := by
  have hname : n.classname ∈ declaredAt o "classname" := by
    rw [h.declaredAt_classname]
    exact List.mem_singleton_self n.classname
  exact (h.nodup_names_iff hleaves).mpr fun homits => hclass _ hname homits.isDefaultName

theorem isNode_of_readNode (h : (readNode site (.object o)).result = .ok n) : IsNode site o n := by
  obtain ⟨o', ho, hnode⟩ := readNode_result_ok.mp h
  obtain rfl : o = o' := by injection ho
  exact hnode

theorem repeatsNothing_of_leavesNames (hleaves : LeavesNames o)
    (hclass : ∀ name ∈ declaredAt o "classname", ¬ IsDefaultName name) :
    RepeatsNothing site o where
  distinct n hread := by
    rw [registers_readNode site (.object o) n hread]
    exact (isNode_of_readNode hread).nodup_names hleaves hclass
  beside n hread before after hapart := by
    rw [registers_readNode site (.object o) n hread] at hapart ⊢
    exact repeated_of_apart ((isNode_of_readNode hread).nodup_names hleaves hclass) hapart
  alone app names hnodes hrefused := by
    obtain ⟨nodes, hread, rfl, hnames⟩ := givesRepeated_readApp app _ hrefused _ rfl
    obtain ⟨-, hlist⟩ := readNodes_result_ok.mp hread
    have hplace : (objectsAt app "nodes")[0]? = some o := by rw [hnodes]; rfl
    obtain ⟨n, -, hn⟩ := hlist.placewise.exists_part hplace
    have hown : appNames app = n.names := by
      rw [appNames, hnodes, List.flatMap_singleton, hn.names]
    rw [← hlist.appNames_eq, hown] at hnames
    exact hnames (repeated_eq_nil.mpr (hn.nodup_names hleaves hclass))

/-- Defaults are identifiers, and tell the kind and the index of an entity and whether it is the
entity that they name or its function. A node whose entities all have defaults, and whose class does
not have the name of one, repeats nothing. -/
theorem generated_names (site : Site) :
    (∀ (kind : EntityKind) (i : Nat), Identifier.isValid (kind.defaultId i) = true ∧
      Identifier.isValid (kind.defaultFunction i) = true) ∧
    (∀ (kind kind' : EntityKind) (i j : Nat),
      (kind.defaultId i = kind'.defaultId j → kind = kind' ∧ i = j) ∧
      (kind.defaultFunction i = kind'.defaultFunction j → kind = kind' ∧ i = j) ∧
      kind.defaultId i ≠ kind'.defaultFunction j) ∧
    ∀ o : Members, LeavesNames o → (∀ name ∈ declaredAt o "classname", ¬ IsDefaultName name) →
      RepeatsNothing site o :=
  ⟨fun kind i => ⟨kind.isValid_defaultId i, kind.isValid_defaultFunction i⟩,
    fun kind kind' i j => ⟨EntityKind.defaultId_inj, EntityKind.defaultFunction_inj,
      kind.defaultId_ne_defaultFunction kind' i j⟩,
    fun _ hleaves hclass => repeatsNothing_of_leavesNames hleaves hclass⟩

/-! ## A node with two timers and a publisher -/

def namelessPublisher : Members :=
  [("topic_name", .string "/odom"), ("message", .string "Odometry"), ("msg_type", .int 4)]

def namelessNode : Members :=
  [("classname", .string "Drive"), ("timers", .list [.object namelessTimer, .object namelessTimer]),
   ("topic_pubs", .list [.object namelessPublisher])]

def namelessNames : List String :=
  ["Drive", "_timer_0", "__Timer0Cb", "_timer_1", "__Timer1Cb", "_topic_pub_0", "__TopicPub0Pub"]

theorem leavesNames_namelessNode : LeavesNames namelessNode := by
  have hlists : ∀ kind ∈ EntityKind.all, ∀ entity ∈ objectsAt namelessNode kind.listKey,
      present? entity "identifier" = none ∧ present? entity kind.functionKey = none := by
    decide
  exact fun kind => hlists kind kind.mem_all

theorem generated_names_of_namelessNode :
    (readNode smallSite (.object namelessNode)).journal.registered = namelessNames ∧
    namelessNames.Nodup ∧
    (Registry.mk (["Base"] ++ namelessNames ++ ["Base"])).duplicates = ["Base"] := by
  have hclass : ∀ name ∈ declaredAt namelessNode "classname", ¬ IsDefaultName name := by
    have hhead : ∀ name ∈ declaredAt namelessNode "classname", name.toList.head? ≠ some '_' := by
      decide
    rintro name hname ⟨kind, index, hdefault⟩
    exact hhead name hname hdefault.head
  obtain ⟨n, hread⟩ : ∃ n, (readNode smallSite (.object namelessNode)).result = .ok n := ⟨_, rfl⟩
  have hregistered : (readNode smallSite (.object namelessNode)).journal.registered =
      namelessNames := rfl
  have hnothing := (generated_names smallSite).2.2 namelessNode leavesNames_namelessNode hclass
  have hdistinct := hnothing.distinct n hread
  have hbeside := hnothing.beside n hread ["Base"] ["Base"]
  rw [hregistered] at hdistinct hbeside
  have hapart : ∀ name ∈ namelessNames, name ∉ ["Base", "Base"] := by decide
  exact ⟨hregistered, hdistinct, (hbeside fun name hname => hapart name hname).trans rfl⟩

end AppConfig.Document

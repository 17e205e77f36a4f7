import AppConfig.Proofs.Document.Told

/-! # Where diagnostics stand

* `Location.Before`: the order in which a document is read; `inOrder_notes`: the diagnostics of an
  object stand in that order.
* `Plan.ValueAt`: the names and domains of a plan, by their locations in the document.
* `diagnostics_of_readDocument`: the diagnostics of a document are true, in order and, if it has a
  plan, complete; and the defaults that they quote are the values of the plan.
-/

namespace AppConfig
set_option autoImplicit false

/-! ## The order of reading -/

/-- The keys with diagnostics, those of one object in the order in which they are read. -/
def keyOrder : List String :=
  ["wolfes_version", "apps", "domain_id", "scheduler_config", "nodes", "modules", "qos_config",
   "timers", "topic_pubs", "topic_subs", "service_servers", "service_clients", "identifier",
   "msg_src", "cb_function", "pub_function", "res_function", "req_function"]

/-- The key is read before the other one of the same object. -/
def KeyBefore (a b : String) : Prop := keyOrder.idxOf a < keyOrder.idxOf b

instance (a b : String) : Decidable (KeyBefore a b) :=
  inferInstanceAs (Decidable (_ < _))

/-- The step to a part that is read before the other one. -/
def Segment.Before (s t : Segment) : Prop :=
  KeyBefore s.key t.key ∨ s.key = t.key ∧ s.index < t.index

theorem Segment.Before.irrefl (s : Segment) : ¬ s.Before s := by
  rintro (h | ⟨-, h⟩)
  · exact Nat.lt_irrefl _ h
  · exact Nat.lt_irrefl _ h

/-- The first steps that differ decide. -/
def Location.Before (l m : Location) : Prop := List.Lex Segment.Before l m

theorem Location.Before.irrefl (l : Location) : ¬ l.Before l :=
  List.lex_irrefl Segment.Before.irrefl l

/-! ## The values of a plan -/

/-- The plan has the value at the place: the domain of an app, or a name of an entity. -/
inductive Plan.ValueAt (p : Plan) : Location → String → Prop
  | domain {i : Nat} {a : App} (app : p.apps[i]? = some a) :
    ValueAt p [.element "apps" i, .field "domain_id"] (toString a.domainId)
  | timerId {i j k : Nat} {a : App} {n : Node} {t : Timer} (app : p.apps[i]? = some a)
    (node : a.nodes[j]? = some n) (timer : n.timers[k]? = some t) :
    ValueAt p [.element "apps" i, .element "nodes" j, .element "timers" k, .field "identifier"] t.id
  | timerFunction {i j k : Nat} {a : App} {n : Node} {t : Timer} (app : p.apps[i]? = some a)
    (node : a.nodes[j]? = some n) (timer : n.timers[k]? = some t) :
    ValueAt p [.element "apps" i, .element "nodes" j, .element "timers" k, .field "cb_function"]
      t.callback
  | endpointId {i j k : Nat} {a : App} {n : Node} {kind : EndpointKind} {e : Endpoint}
    (app : p.apps[i]? = some a) (node : a.nodes[j]? = some n)
    (endpoint : (n.endpoints kind)[k]? = some e) :
    ValueAt p [.element "apps" i, .element "nodes" j,
      .element (EntityKind.endpoint kind).listKey k, .field "identifier"] e.id
  | endpointFunction {i j k : Nat} {a : App} {n : Node} {kind : EndpointKind} {e : Endpoint}
    (app : p.apps[i]? = some a) (node : a.nodes[j]? = some n)
    (endpoint : (n.endpoints kind)[k]? = some e) :
    ValueAt p [.element "apps" i, .element "nodes" j,
      .element (EntityKind.endpoint kind).listKey k,
      .field (EntityKind.endpoint kind).functionKey] e.function

namespace Document
open Fields (present?)

variable {β : Type} {site : Site} {o : Members} {key default : String} {d : Diagnostic}

/-! ## The order of diagnostics -/

/-- The keys of an object whose values its own diagnostics are about. -/
def ownKeys : Level → List String
  | .root => ["wolfes_version"]
  | .app => ["domain_id", "scheduler_config"]
  | .node => ["qos_config"]
  | .module => []
  | .entity .timer => ["identifier", "cb_function"]
  | .entity (.endpoint kind) => ["identifier", "msg_src", (EntityKind.endpoint kind).functionKey]

/-- Fields are read in order, and lists in order after them. -/
theorem pairwise_keys (level : Level) :
    (ownKeys level ++ (partLists level).map Prod.fst).Pairwise KeyBefore := by
  cases level with
  | entity kind =>
    cases kind with
    | timer => decide
    | endpoint kind => cases kind <;> decide
  | _ => decide

theorem places_defaultedNotes (o : Members) (key default : String) :
    ((defaultedNotes o key default).map Diagnostic.location).Sublist [[.field key]] := by
  unfold defaultedNotes
  cases present? o key <;> simp [Diagnostic.defaulted]

theorem places_omittedNotes (o : Members) (key : String) :
    ((omittedNotes o key).map Diagnostic.location).Sublist [[.field key]] := by
  unfold omittedNotes
  cases present? o key <;> simp [Diagnostic.omitted]

theorem places_versionNotes (o : Members) :
    ((versionNotes o).map Diagnostic.location).Sublist [[.field "wolfes_version"]] := by
  unfold versionNotes
  split
  · next s hs =>
    have hone := Version.notes_length_le s
    match hnotes : Version.notes s, hone with
    | [], _ => exact List.nil_sublist _
    | [e], _ =>
      have hlocation : e.location = [] := (Version.mem_notes (hnotes ▸ List.mem_singleton_self e)).1
      simp [Diagnostic.under, hlocation]
  · exact List.nil_sublist _

/-- The diagnostic of a module is about the module as a whole. -/
theorem places_ownNotes {level : Level} (hlevel : level ≠ .module) (index : Nat) (o : Members) :
    ((ownNotes level index o).map Diagnostic.location).Sublist
      ((ownKeys level).map fun key => [.field key]) := by
  cases level with
  | root => exact places_versionNotes o
  | app =>
    rw [ownNotes, List.map_append]
    exact (places_defaultedNotes o _ _).append (places_omittedNotes o _)
  | node => exact places_omittedNotes o _
  | module => exact absurd rfl hlevel
  | entity kind =>
    rw [ownNotes, List.map_append, List.map_append]
    have hid := places_defaultedNotes o "identifier" (kind.defaultId index)
    have hfunction := places_defaultedNotes o kind.functionKey (kind.defaultFunction index)
    cases kind with
    | timer => exact hid.append hfunction
    | endpoint kind => exact hid.append ((places_omittedNotes o "msg_src").append hfunction)

/-- The diagnostics stand in the order of reading. -/
def InOrder (ds : Diagnostics) : Prop := ds.Pairwise fun d e => d.location.Before e.location

theorem before_of_key {s t : Segment} (h : KeyBefore s.key t.key) (l m : Location) :
    Location.Before (s :: l) (t :: m) := .rel (.inl h)

theorem before_of_index {i j : Nat} (h : i < j) (key : String) (l m : Location) :
    Location.Before (.element key i :: l) (.element key j :: m) := .rel (.inr ⟨rfl, h⟩)

theorem inOrder_under {ds : Diagnostics} (h : InOrder ds) (s : Segment) :
    InOrder (ds.map (Diagnostic.under s)) := List.pairwise_map.mpr (h.imp .cons)

theorem inOrder_listNotes {f : Nat → Members → Diagnostics} (h : ∀ k inner, InOrder (f k inner))
    (o : Members) (key : String) : InOrder (listNotes o key f) := by
  have hobject : ∀ k v, InOrder (objectNotes (f k) v) := by
    intro k v
    cases v with
    | object inner => exact h k inner
    | _ => exact .nil
  unfold listNotes
  split
  · next items _ =>
    refine List.pairwise_flatten.mpr ⟨?_, ?_⟩
    · intro ds hds
      obtain ⟨k, hk, rfl⟩ := List.mem_mapIdx.mp hds
      exact inOrder_under (hobject k items[k]) _
    · rw [List.pairwise_iff_getElem]
      intro i j hi hj hij d hd e he
      rw [List.getElem_mapIdx] at hd he
      obtain ⟨d, -, rfl⟩ := List.mem_map.mp hd
      obtain ⟨e, -, rfl⟩ := List.mem_map.mp he
      exact before_of_index hij key d.location e.location
  · exact .nil

theorem inOrder_notes (level : Level) : ∀ index o, InOrder (notes level index o) := by
  induction level using level_induction with | h level ih =>
  intro index o
  by_cases hlevel : level = .module
  · rw [hlevel]
    exact List.pairwise_singleton _ _
  obtain ⟨hfields, hlists, hacross⟩ := List.pairwise_append.mp (pairwise_keys level)
  have hplaces := places_ownNotes hlevel index o
  rw [notes_eq]
  refine List.pairwise_append.mpr ⟨?_, ?_, ?_⟩
  · have hbefore := hfields.imp fun {a b} h => before_of_key (s := .field a) (t := .field b) h [] []
    exact List.pairwise_map.mp ((List.pairwise_map.mpr hbefore).sublist hplaces)
  · refine List.pairwise_flatMap.mpr ⟨fun p hp => inOrder_listNotes (ih p hp) o p.1, ?_⟩
    refine (List.pairwise_map.mp hlists).imp fun {p q} hpq d hd e he => ?_
    obtain ⟨i, -, -, d, -, rfl⟩ := mem_listNotes.mp hd
    obtain ⟨j, -, -, e, -, rfl⟩ := mem_listNotes.mp he
    exact before_of_key (s := .element p.1 i) (t := .element q.1 j) hpq d.location e.location
  · intro d hd e he
    obtain ⟨p, hp, he⟩ := List.mem_flatMap.mp he
    obtain ⟨k, -, -, e, -, rfl⟩ := mem_listNotes.mp he
    obtain ⟨key, hkey, hlocation⟩ := List.mem_map.mp (hplaces.subset (List.mem_map_of_mem hd))
    rw [← hlocation]
    have hbefore := hacross key hkey p.1 (List.mem_map_of_mem hp)
    exact before_of_key (s := .field key) (t := .element p.1 k) hbefore [] e.location

/-! ## The values of the plan -/

theorem IsSymbol.eq_default {name : String} (h : IsSymbol o key default name)
    (hnone : present? o key = none) : name = default := by
  obtain ⟨declared, hkey, rfl⟩ := h.declared
  cases declared with
  | none => rfl
  | some s => cases hnone.symm.trans hkey

/-- The part that stands in a plan for an object of a list, and the way on from there. -/
theorem IsList.exists_part {IsPart : Nat → Members → β → Prop} {parts : List β} {k : Nat}
    {rest : Location} {inner : Members} (h : IsList o key IsPart parts)
    (hinner : Location.resolve (.element key k :: rest) (.object o) = some (.object inner)) :
    ∃ part mid, parts[k]? = some part ∧ IsPart k mid part ∧
      rest.resolve (.object mid) = some (.object inner) := by
  rw [Location.resolve] at hinner
  obtain ⟨v, hv, hrest⟩ := Option.bind_eq_some_iff.mp hinner
  obtain ⟨items, hitems, hitem⟩ := resolve_element_eq_some.mp hv
  obtain ⟨declared, hkey, hparts⟩ := h
  obtain rfl : some items = declared := by
    cases declared with
    | none => cases hitems.symm.trans hkey
    | some items' => simpa using hitems.symm.trans hkey
  obtain ⟨part, hpart, mid, rfl, hrelated⟩ := hparts.exists_part hitem
  exact ⟨part, mid, hpart, hrelated, hrest⟩

theorem exists_default_of_mem {level : Level} {index : Nat} (h : d ∈ ownNotes level index o)
    (hcode : d.code = .fieldDefaulted) : ∃ p ∈ defaults level index,
      d = .defaulted [.field p.1] p.2 ∧ present? o p.1 = none := by
  rcases mem_ownNotes.mp h with hdefaulted | ⟨key, -, rfl, -⟩ | ⟨-, rfl⟩ | ⟨-, h⟩
  · exact hdefaulted
  · cases hcode
  · cases hcode
  · obtain ⟨s, -, e, he, rfl⟩ := mem_versionNotes.mp h
    cases (Version.mem_notes he).2.1.symm.trans hcode

theorem IsApp.domainId_eq {a : App} (h : IsApp site o a) (hnone : present? o "domain_id" = none) :
    a.domainId = 0 := by
  obtain ⟨declared, hkey, hdomain⟩ := h.domainId
  cases declared with
  | none => exact hdomain
  | some w => cases hnone.symm.trans hkey

/-- Where an object of the document leaves a field with a default absent, the plan has the
default. -/
theorem IsPlan.valueAt {plan : Plan} (h : IsPlan site o plan) {path : Location} {level : Level}
    {inner : Members} {p : String × String} (hpath : Reaches .root path level)
    (hinner : path.resolve (.object o) = some (.object inner))
    (hp : p ∈ defaults level (path.lastIndex 0)) (hnone : present? inner p.1 = none) :
    plan.ValueAt (path ++ [.field p.1]) p.2 := by
  cases hpath with
  | here => cases hp
  | step first rest =>
    cases first with | app i =>
    obtain ⟨a, appObject, ha, happ, hinner⟩ := h.apps.exists_part hinner
    cases rest with
    | here =>
      obtain rfl := List.mem_singleton.mp hp
      obtain rfl : appObject = inner := by simpa [Location.resolve] using hinner
      have hvalue := Plan.ValueAt.domain ha
      rwa [happ.domainId_eq hnone] at hvalue
    | step second rest =>
      cases second with
      | module j =>
        cases rest with
        | here => cases hp
        | step third _ => cases third
      | node j =>
        obtain ⟨n, nodeObject, hn, hnode, hinner⟩ := happ.nodes.exists_part hinner
        cases rest with
        | here => cases hp
        | step third rest =>
          cases third with | entity kind k =>
          cases rest with
          | step fourth _ => cases fourth
          | here =>
            have hcases : p = ("identifier", kind.defaultId k) ∨
                p = (kind.functionKey, kind.defaultFunction k) := by
              simpa [defaults, Location.lastIndex, Segment.index] using hp
            cases kind with
            | timer =>
              obtain ⟨t, entityObject, ht, htimer, hlast⟩ := hnode.timers.exists_part hinner
              obtain rfl : entityObject = inner := by simpa [Location.resolve] using hlast
              rcases hcases with rfl | rfl
              · rw [← htimer.id.eq_default hnone]
                exact .timerId ha hn ht
              · rw [← htimer.callback.eq_default hnone]
                exact .timerFunction ha hn ht
            | endpoint kind =>
              obtain ⟨e, entityObject, he, hendpoint, hlast⟩ :=
                (hnode.endpoints kind).exists_part hinner
              obtain rfl : entityObject = inner := by simpa [Location.resolve] using hlast
              rcases hcases with rfl | rfl
              · rw [← hendpoint.id.eq_default hnone]
                exact .endpointId ha hn he
              · rw [← hendpoint.function.eq_default hnone]
                exact .endpointFunction ha hn he

/-! ## The diagnostics of a document -/

theorem isTold_of_mem (h : d ∈ rootNotes o) : IsTold (.object o) d.location d.code := by
  have hmem : d ∈ notes .root 0 o := h
  obtain ⟨path, level, inner, hpath, hinner, e, he, rfl⟩ := mem_notes.mp hmem
  exact ⟨path, level, inner, e.location, rfl, hpath, hinner, tells_of_mem he⟩

theorem IsPlan.exists_mem {plan : Plan} (h : IsPlan site o plan) {l : Location}
    {code : DiagnosticCode} (htold : IsTold (.object o) l code) :
    ∃ d ∈ rootNotes o, d.location = l ∧ d.code = code := by
  obtain ⟨path, level, inner, rest, rfl, hpath, hinner, htells⟩ := htold
  have hversion : level = .root → ∃ version, (readVersion inner).result = .ok version := by
    rintro rfl
    obtain rfl := hpath.eq_nil rfl
    obtain rfl : o = inner := by simpa [Location.resolve] using hinner
    exact ⟨plan.version, readVersion_result_ok.mpr h.version⟩
  obtain ⟨e, he, rfl, rfl⟩ := exists_mem_of_tells hversion htells (path.lastIndex 0)
  have hmem : e.within path ∈ notes .root 0 o :=
    mem_notes.mpr ⟨path, level, inner, hpath, hinner, e, he, rfl⟩
  exact ⟨e.within path, hmem, rfl, rfl⟩

theorem IsPlan.defaulted_eq {plan : Plan} (h : IsPlan site o plan) (hd : d ∈ rootNotes o)
    (hcode : d.code = .fieldDefaulted) :
    ∃ value, plan.ValueAt d.location value ∧ d = .defaulted d.location value := by
  have hmem : d ∈ notes .root 0 o := hd
  obtain ⟨path, level, inner, hpath, hinner, e, he, rfl⟩ := mem_notes.mp hmem
  obtain ⟨p, hp, rfl, hnone⟩ := exists_default_of_mem he hcode
  exact ⟨p.2, h.valueAt hpath hinner hp hnone, rfl⟩

/-- Every diagnostic of a document is true of it, no two stand at the same place, and they stand in
the order of reading. If the document has a plan, whatever could be told is told, and each default
that is quoted is the value of the plan at that place. -/
theorem diagnostics_of_readDocument (site : Site) (doc : Json) :
    (∀ d ∈ (readDocument site doc).journal.diagnostics, IsTold doc d.location d.code) ∧
    InOrder (readDocument site doc).journal.diagnostics ∧
    ((readDocument site doc).journal.diagnostics.map Diagnostic.location).Nodup ∧
    ∀ plan, (readDocument site doc).result = .ok plan →
      (∀ l code, IsTold doc l code →
        ∃ d ∈ (readDocument site doc).journal.diagnostics, d.location = l ∧ d.code = code) ∧
      ∀ d ∈ (readDocument site doc).journal.diagnostics, d.code = .fieldDefaulted →
        ∃ value, plan.ValueAt d.location value ∧ d = .defaulted d.location value := by
  have hleaves : Outcome.Leaves (objectNotes rootNotes doc) (readDocument site doc) :=
    leaves_readDocument doc
  have hall : InOrder (objectNotes rootNotes doc) := by
    cases doc with
    | object o => exact inOrder_notes .root 0 o
    | _ => exact .nil
  have horder : InOrder (readDocument site doc).journal.diagnostics :=
    hall.sublist hleaves.begins.sublist
  refine ⟨fun d hd => ?_, horder, ?_, fun plan hplan => ?_⟩
  · obtain ⟨o, rfl, hmem⟩ := mem_objectNotes.mp (hleaves.begins.subset hd)
    exact isTold_of_mem hmem
  · refine List.pairwise_map.mpr (horder.imp fun {d e} hbefore heq => ?_)
    rw [heq] at hbefore
    exact Location.Before.irrefl _ hbefore
  · obtain ⟨o, rfl, hmade⟩ := readDocument_result_ok.mp hplan
    have hnotes : (readDocument site (.object o)).journal.diagnostics = rootNotes o :=
      hleaves.complete plan hplan
    rw [hnotes]
    exact ⟨fun l code => hmade.exists_mem, fun d => hmade.defaulted_eq⟩

theorem diagnostics_of_smallDocument : ∃ plan,
    (readDocument smallSite smallDocument).result = .ok plan ∧
      (∀ l code, IsTold smallDocument l code →
        ∃ d ∈ (readDocument smallSite smallDocument).journal.diagnostics,
          d.location = l ∧ d.code = code) ∧
      ∀ d ∈ (readDocument smallSite smallDocument).journal.diagnostics, d.code = .fieldDefaulted →
        ∃ value, plan.ValueAt d.location value ∧ d = .defaulted d.location value := by
  obtain ⟨plan, hplan⟩ := exists_smallPlan
  have h := diagnostics_of_readDocument smallSite smallDocument
  exact ⟨plan, hplan, h.2.2.2 plan hplan⟩

end Document
end AppConfig

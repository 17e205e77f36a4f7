import AppConfig.Proofs.Document.Checks

/-! # The objects that reading comes to

* `Enters`: reading an object comes to an element of one of its lists; what stands before is as the
  format asks.
* `Reached`: from the document, step by step, with the diagnostics left on the way.
* `leads_of_enters`: one step; `Reached.leads`: if the object that is reached cannot be read, the
  document is refused for its fault, and what has been left is known.
-/

namespace AppConfig.Document
set_option autoImplicit false
open Outcome
open Fields (present?)

variable {site : Site} {o : Members} {key : String} {items : List Json} {level : Level} {k : Nat}

def IsObject (v : Json) : Prop := ∃ o, v = .object o

/-- The value is an object as the format asks of the level. -/
def IsWellFormed (site : Site) (level : Level) (v : Json) : Prop :=
  ∃ o, v = .object o ∧ WellFormedPart site level o

/-! ## Elements of lists -/

theorem passes_object {f : Nat → Json → Outcome (Made level)}
    (hf : ∀ i inner, f i (.object inner) = readPart site level i inner) {i : Nat} {v : Json}
    (hv : IsWellFormed site level v) : Passes (objectNotes (notes level i) v) (f i v) := by
  obtain ⟨inner, rfl, hinner⟩ := hv
  rw [hf]
  exact passes_readPart hinner

/-- Reading a list that is there comes to an element if those before it are as the format asks. -/
theorem leads_element {list : Outcome (List Json)} {f : Nat → Json → Outcome (Made level)}
    {inner : Members} (hlist : list = pure items)
    (hf : ∀ i inner, f i (.object inner) = readPart site level i inner)
    (hk : items[k]? = some (.object inner))
    (hbefore : ∀ v ∈ items.take k, IsWellFormed site level v) :
    Leads (itemNotes key (items.take k) (notes level)) (list >>= fun items => elements key items f)
      ((readPart site level k inner).under (.element key k)) := by
  have hpasses : ∀ i v, i < k → items[i]? = some v →
      Passes (objectNotes (notes level i) v) (f i v) :=
    fun i v hi hv => passes_object hf (forall_mem_take.mp hbefore i v hi hv)
  have hleads : Leads (itemNotes key (items.take k) (notes level)) (elements key items f)
      ((f k (.object inner)).under (.element key k)) := .elements hk hpasses
  rw [hlist, pure_bind]
  rwa [hf] at hleads

theorem exists_objects (h : ∀ v ∈ items, IsObject v) : ∃ objects : List Members,
    items = objects.map .object := by
  refine ⟨items.map Fields.membersOf, ?_⟩
  have hsame : ∀ v ∈ items, (Json.object ∘ Fields.membersOf) v = id v := by
    intro v hv
    obtain ⟨inner, rfl⟩ := h v hv
    rfl
  rw [List.map_map, List.map_congr_left hsame, List.map_id]

theorem shows_asObjects (key : String) (objects : List Members) :
    Shows (.ok objects) [] (elements key (objects.map .object) fun _ v => asObject v) := by
  refine (leaves_asObjects _).shows (elements_result_ok.mpr ⟨List.length_map _, ?_⟩)
  intro i v inner hv hinner
  rw [List.getElem?_map, hinner] at hv
  obtain rfl := Option.some.inj hv
  rfl

theorem leads_entity {kind : EntityKind} {inner : Members}
    (hlist : present? o kind.listKey = some (.list items))
    (hk : items[k]? = some (.object inner))
    (hbefore : ∀ v ∈ items.take k, IsWellFormed site (.entity kind) v)
    (hobjects : ∀ v ∈ items, IsObject v) :
    Leads (itemNotes kind.listKey (items.take k) (notes (.entity kind)))
      (readEntities o kind (readPart site (.entity kind)))
      ((readPart site (.entity kind) k inner).under (.element kind.listKey k)) := by
  obtain ⟨objects, rfl⟩ := exists_objects hobjects
  have hinner : objects[k]? = some inner := by simpa using hk
  have hpasses : ∀ i member, i < k → objects[i]? = some member →
      Passes (notes (.entity kind) i member) (readPart site (.entity kind) i member) := by
    intro i member hi hmember
    obtain ⟨o', ho', hwell⟩ := forall_mem_take.mp hbefore i (.object member) hi (by simp [hmember])
    obtain rfl := Json.object.inj ho'
    exact passes_readPart hwell
  -- The first way through the list, which sees all elements to be objects, leaves nothing.
  rw [readEntities, Fields.optionalList_of_present hlist, pure_bind, ← List.map_take,
    itemNotes_objects]
  exact .after_shows (shows_asObjects kind.listKey objects) (.elements hinner hpasses)

/-! ## One step -/

/-- Reading the object comes to an element of one of its lists, which is the other object. -/
structure Enters (site : Site) (a : Fragment) (key : String) (items : List Json) (c : Fragment) :
    Prop where
  list : (key, c.level) ∈ partLists a.level
  passed : a.Passed site key
  present : present? a.members key = some (.list items)
  element : items[c.index]? = some (.object c.members)
  earlier : ∀ v ∈ items.take c.index, IsWellFormed site c.level v
  /-- Entities are not read before all of their list are seen to be objects. -/
  objects : ∀ kind, c.level = .entity kind → ∀ v ∈ items, IsObject v

/-- What reading the object leaves before it comes to the element. -/
def Enters.notes (site : Site) (a : Fragment) (key : String) (items : List Json) (c : Fragment) :
    Diagnostics :=
  a.notesBefore site key ++ itemNotes key (items.take c.index) (Document.notes c.level)

theorem find_entities (kind : EntityKind) : (checks site .node k o).find? (·.key = kind.listKey) =
    some (.entities site o kind) := by
  cases kind with
  | timer => rfl
  | endpoint kind => cases kind <;> rfl

theorem leads_of_enters {a c : Fragment} (h : Enters site a key items c) :
    Leads (Enters.notes site a key items c) (a.read site)
      ((c.read site).under (.element key c.index)) := by
  obtain ⟨level, index, o⟩ := a
  obtain ⟨level', k, inner⟩ := c
  obtain ⟨hlist, hpassed, hpresent, helement, hearlier, hobjects⟩ := h
  cases level with
  | root =>
    obtain ⟨rfl, rfl⟩ : key = "apps" ∧ level' = .app := by simpa [partLists] using hlist
    exact leads_read rfl rfl hpassed
      (leads_element (Fields.list_of_present hpresent) (fun _ _ => rfl) helement hearlier)
  | app =>
    have hcases : key = "nodes" ∧ level' = .node ∨ key = "modules" ∧ level' = .module := by
      simpa [partLists] using hlist
    rcases hcases with ⟨rfl, rfl⟩ | ⟨rfl, rfl⟩
    · exact leads_read rfl rfl hpassed
        (leads_element (Fields.list_of_present hpresent) (fun _ _ => rfl) helement hearlier)
    · exact leads_read rfl rfl hpassed
        (leads_element (Fields.optionalList_of_present hpresent) (fun _ _ => rfl) helement hearlier)
  | node =>
    obtain ⟨kind, -, hkind⟩ := List.mem_map.mp hlist
    obtain ⟨rfl, rfl⟩ := Prod.mk.inj hkind
    exact leads_read (find_entities kind) rfl hpassed
      (leads_entity hpresent helement hearlier (hobjects kind rfl))
  | module => cases hlist
  | entity kind => cases hlist

/-! ## From the document -/

/-- The objects that reading a document comes to, with what it has left by then and the place. -/
inductive Reached (site : Site) (o : Members) : Diagnostics → Location → Fragment → Prop
  | root : Reached site o [] [] ⟨.root, 0, o⟩
  | element {earlier : Diagnostics} {path : Location} {a c : Fragment} {key : String}
      {items : List Json} (around : Reached site o earlier path a)
      (enters : Enters site a key items c) :
      Reached site o (earlier ++ (Enters.notes site a key items c).map (Diagnostic.within path))
        (path ++ [.element key c.index]) c

/-- If the object that is reached is refused, the document is refused for its fault. -/
theorem Reached.leads {earlier : Diagnostics} {path : Location} {a : Fragment}
    (h : Reached site o earlier path a) :
    Leads earlier (readDocument site (.object o)) ((a.read site).within path) := by
  induction h with
  | root => exact .refl _
  | @element _ path _ _ _ _ _ enters ih =>
    have hstep := (leads_of_enters enters).within path
    rw [within_under] at hstep
    exact ih.trans hstep

/-- What a key of a reached object is refused for, the document is refused for. -/
theorem Reached.leads_key {α β : Type} {earlier later : Diagnostics} {path : Location}
    {a : Fragment} {c : Check} {x : Outcome α} {y : Outcome β} (h : Reached site o earlier path a)
    (hc : (a.checks site).find? (·.key = key) = some c) (hrun : c.run = (fun _ => ()) <$> x)
    (hpassed : a.Passed site key) (hx : Leads later x y) :
    Leads (earlier ++ (a.notesBefore site key ++ later).map (Diagnostic.within path))
      (readDocument site (.object o)) (y.within path) :=
  h.leads.trans ((leads_read hc hrun hpassed hx).within path)

/-! ## A document with one node -/

def loneApp (node : Members) : Members :=
  [("namespace", .string "demo"), ("protocol_type", .int 0), ("nodes", .list [.object node])]

def loneDocument (node : Members) : Members :=
  [("wolfes_version", .string "1.0.0"), ("platform", .int 0), ("lang", .int 0),
    ("apps", .list [.object (loneApp node)])]

def lonePath : Location := [.element "apps" 0, .element "nodes" 0]

/-- What is left before the node: the app has no domain and no scheduler. -/
def loneNotes : Diagnostics :=
  [.defaulted [.element "apps" 0, .field "domain_id"] "0",
    .omitted [.element "apps" 0, .field "scheduler_config"]]

/-- Whatever the node is, reading comes to it. -/
theorem reached_loneNode (site : Site) (node : Members) :
    Reached site (loneDocument node) loneNotes lonePath ⟨.node, 0, node⟩ := by
  have happ : Enters site ⟨.root, 0, loneDocument node⟩ "apps" [.object (loneApp node)]
      ⟨.app, 0, loneApp node⟩ := by
    refine ⟨List.mem_singleton_self _, ?_, rfl, rfl, by simp, fun _ h => by cases h⟩
    intro c hc
    have hcases : c ∈ [Check.version (loneDocument node),
      .code (loneDocument node) "platform" Platform,
      .code (loneDocument node) "lang" Language] := hc
    simp only [List.mem_cons, List.not_mem_nil, or_false] at hcases
    rcases hcases with rfl | rfl | rfl
    · exact ⟨_, rfl, "1.0.0", _, rfl, rfl⟩
    · exact (exists_code Platform).mp ⟨.linux, rfl⟩
    · exact (exists_code Language).mp ⟨.cpp, rfl⟩
  have hnode : Enters site ⟨.app, 0, loneApp node⟩ "nodes" [.object node] ⟨.node, 0, node⟩ := by
    refine ⟨List.mem_cons_self, ?_, rfl, rfl, by simp, fun _ h => by cases h⟩
    intro c hc
    have hcases : c ∈ [Check.namespaceName (loneApp node), .domain (loneApp node),
      .code (loneApp node) "protocol_type" Protocol,
      .reference site (loneApp node) "scheduler_config"] := hc
    simp only [List.mem_cons, List.not_mem_nil, or_false] at hcases
    rcases hcases with rfl | rfl | rfl | rfl
    · exact exists_name.mp ⟨"demo", rfl, by decide⟩
    · exact exists_domain.mp ⟨0, none, rfl, rfl⟩
    · exact (exists_code Protocol).mp ⟨.intra, rfl⟩
    · exact exists_reference.mp ⟨none, rfl, fun _ h => by cases h⟩
  exact .element (.element .root happ) hnode

/-- A node with nothing but a name and timers. -/
def timersNode (items : List Json) : Members :=
  [("classname", .string "Drive"), ("timers", .list items)]

theorem passed_timersNode (site : Site) (items : List Json) :
    Fragment.Passed site ⟨.node, 0, timersNode items⟩ EntityKind.timer.listKey := by
  intro c hc
  have hcases : c ∈ [Check.classname (timersNode items),
    .reference site (timersNode items) "qos_config"] := hc
  simp only [List.mem_cons, List.not_mem_nil, or_false] at hcases
  rcases hcases with rfl | rfl
  · exact exists_name.mp ⟨"Drive", rfl, by decide⟩
  · exact exists_reference.mp ⟨none, rfl, fun _ h => by cases h⟩

end AppConfig.Document

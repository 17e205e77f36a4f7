import AppConfig.Document.Reader
import AppConfig.Proofs.Naming.Defaults

/-! # Places in a document

* `Level`, `Step`, `Reaches`: the objects that are read, and the locations that lead to them.
* `partLists`, `level_induction`: the lists of an object, and what is proved along them.
* `IsPlace`: a location of an element of the document, or of a field of an object in it.
* `IsPlace.isIndexed`: the indices of a place are those of the app and the node in the document
  that its location begins with.
-/

namespace AppConfig.Document
set_option autoImplicit false

/-- What an object of a document stands for. -/
inductive Level where
  | root
  | app
  | node
  | module
  | entity (kind : EntityKind)
  deriving DecidableEq, Repr

/-- From an object to an element of one of its lists. -/
inductive Step : Level → Segment → Level → Prop
  | app (i : Nat) : Step .root (.element "apps" i) .app
  | node (i : Nat) : Step .app (.element "nodes" i) .node
  | module (i : Nat) : Step .app (.element "modules" i) .module
  | entity (kind : EntityKind) (i : Nat) : Step .node (.element kind.listKey i) (.entity kind)

/-- The location leads from an object of one level to one of the other. -/
inductive Reaches : Level → Location → Level → Prop
  | here (level : Level) : Reaches level [] level
  | step {a b c : Level} {s : Segment} {path : Location} (first : Step a s b)
    (rest : Reaches b path c) : Reaches a (s :: path) c

/-- The location is that of a part of the document, or of a field of an object in it. -/
def IsPlace (level : Level) (v : Json) (l : Location) : Prop :=
  ∃ path inner w, Reaches level path inner ∧ path.resolve v = some w ∧
    (l = path ∨ ∃ o key, w = .object o ∧ l = path ++ [.field key])

/-! ## The parts of an object -/

/-- The lists of an object in the order in which they are read, and what their elements are. -/
def partLists : Level → List (String × Level)
  | .root => [("apps", .app)]
  | .app => [("nodes", .node), ("modules", .module)]
  | .node => EntityKind.all.map fun kind => (kind.listKey, .entity kind)
  | .module | .entity _ => []

theorem step_iff {a b : Level} {s : Segment} :
    Step a s b ↔ ∃ key k, (key, b) ∈ partLists a ∧ s = .element key k := by
  constructor
  · intro h
    cases h with
    | app i => exact ⟨_, i, by simp [partLists], rfl⟩
    | node i => exact ⟨_, i, by simp [partLists], rfl⟩
    | module i => exact ⟨_, i, by simp [partLists], rfl⟩
    | entity kind i => exact ⟨_, i, List.mem_map_of_mem kind.mem_all, rfl⟩
  · rintro ⟨key, k, hkey, rfl⟩
    cases a with
    | root =>
      obtain ⟨rfl, rfl⟩ : key = "apps" ∧ b = .app := by simpa [partLists] using hkey
      exact .app k
    | app =>
      have hcases : key = "nodes" ∧ b = .node ∨ key = "modules" ∧ b = .module := by
        simpa [partLists] using hkey
      rcases hcases with ⟨rfl, rfl⟩ | ⟨rfl, rfl⟩
      · exact .node k
      · exact .module k
    | node =>
      obtain ⟨kind, -, hkind⟩ := List.mem_map.mp hkey
      obtain ⟨rfl, rfl⟩ := Prod.mk.inj hkind
      exact .entity kind k
    | module => cases hkey
    | entity kind => cases hkey

/-- What holds of a level if it holds of its parts holds of all levels. -/
theorem level_induction {P : Level → Prop}
    (h : ∀ level, (∀ p ∈ partLists level, P p.2) → P level) (level : Level) : P level := by
  have hentity : ∀ kind, P (.entity kind) := fun kind => h _ fun p hp => by cases hp
  have hmodule : P .module := h _ fun p hp => by cases hp
  have hnode : P .node := by
    refine h _ fun p hp => ?_
    obtain ⟨kind, -, rfl⟩ := List.mem_map.mp hp
    exact hentity kind
  have happ : P .app := by
    refine h _ fun p hp => ?_
    have hparts : p = ("nodes", .node) ∨ p = ("modules", .module) := by simpa [partLists] using hp
    rcases hparts with rfl | rfl
    · exact hnode
    · exact hmodule
  cases level with
  | root =>
    refine h _ fun p hp => ?_
    obtain rfl := List.mem_singleton.mp hp
    exact happ
  | app => exact happ
  | node => exact hnode
  | module => exact hmodule
  | entity kind => exact hentity kind

theorem Reaches.eq_nil {a b : Level} {path : Location} (h : Reaches a path b) (hb : b = .root) :
    path = [] := by
  have hnil : path = [] ∧ a = .root := by
    induction h with
    | here level => exact ⟨rfl, hb⟩
    | step first _ ih =>
      obtain ⟨-, rfl⟩ := ih hb
      cases first
  exact hnil.1

/-! ## Resolving -/

theorem resolve_cons {s : Segment} {path : Location} {v inner : Json}
    (h : s.resolve v = some inner) :
    Location.resolve (s :: path) v = Location.resolve path inner := by
  rw [Location.resolve, h]
  rfl

/-- Whatever a location begins with leads somewhere if the location does. -/
theorem exists_resolve_of_append (path : Location) {rest : Location} {v w : Json}
    (h : Location.resolve (path ++ rest) v = some w) : ∃ u, Location.resolve path v = some u := by
  induction path generalizing v with
  | nil => exact ⟨v, rfl⟩
  | cons s path ih =>
    rw [List.cons_append, Location.resolve] at h
    obtain ⟨inner, hinner, h⟩ := Option.bind_eq_some_iff.mp h
    obtain ⟨u, hu⟩ := ih h
    exact ⟨u, (resolve_cons hinner).trans hu⟩

theorem resolve_field (o : Members) (key : String) :
    Location.resolve [.field key] (.object o) = o.get? key := by
  rw [Location.resolve, Segment.resolve]
  cases o.get? key <;> rfl

/-- What leads to an object leads there from an object. -/
theorem exists_object_of_resolve {path : Location} {v : Json} {inner : Members}
    (h : path.resolve v = some (.object inner)) : ∃ o, v = .object o := by
  cases path with
  | nil => exact ⟨inner, Option.some.inj h⟩
  | cons s path =>
    cases v with
    | object o => exact ⟨o, rfl⟩
    | _ => cases h

theorem IsPlace.here (level : Level) (v : Json) : IsPlace level v [] :=
  ⟨[], level, v, .here level, rfl, .inl rfl⟩

theorem IsPlace.field (level : Level) (o : Members) (key : String) :
    IsPlace level (.object o) [.field key] :=
  ⟨[], level, .object o, .here level, rfl, .inr ⟨o, key, rfl, rfl⟩⟩

theorem IsPlace.under {a b : Level} {s : Segment} {v inner : Json} {l : Location}
    (hs : Step a s b) (hv : s.resolve v = some inner) (h : IsPlace b inner l) :
    IsPlace a v (s :: l) := by
  obtain ⟨path, c, w, hpath, hw, hl⟩ := h
  refine ⟨s :: path, c, w, .step hs hpath, (resolve_cons hv).trans hw, ?_⟩
  rcases hl with rfl | ⟨o, key, rfl, rfl⟩
  · exact .inl rfl
  · exact .inr ⟨o, key, rfl, rfl⟩

/-! ## Apps and nodes around a place -/

/-- The paths of a document, spelled out. -/
theorem Reaches.cases_root {path : Location} {level : Level} (h : Reaches .root path level) :
    path = [] ∨ ∃ i, path = [.element "apps" i] ∨
      (∃ j, path = [.element "apps" i, .element "modules" j]) ∨
      ∃ j, path = [.element "apps" i, .element "nodes" j] ∨ ∃ (kind : EntityKind) (k : Nat),
        path = [.element "apps" i, .element "nodes" j, .element kind.listKey k] := by
  cases h with
  | here => exact .inl rfl
  | step first rest =>
    cases first with
    | app i =>
      right
      refine ⟨i, ?_⟩
      cases rest with
      | here => exact .inl rfl
      | step second rest =>
        right
        cases second with
        | module j =>
          cases rest with
          | here => exact .inl ⟨j, rfl⟩
          | step third rest => cases third
        | node j =>
          right
          refine ⟨j, ?_⟩
          cases rest with
          | here => exact .inl rfl
          | step third rest =>
            right
            cases third with
            | entity kind k =>
              cases rest with
              | here => exact ⟨kind, k, rfl⟩
              | step fourth rest => cases fourth

/-- The indices of a location are those of the app and the node in the document that it is in. -/
structure IsIndexed (doc : Json) (l : Location) : Prop where
  app : ∀ i, l.appIndex = some i ↔ ∃ rest, l = .element "apps" i :: rest
  node : ∀ j, l.nodeIndex = some j ↔ ∃ i rest, l = .element "apps" i :: .element "nodes" j :: rest
  exists_app : ∀ i, l.appIndex = some i →
    ∃ v, Location.resolve [.element "apps" i] doc = some v
  exists_node : ∀ i j, l.appIndex = some i → l.nodeIndex = some j →
    ∃ v, Location.resolve [.element "apps" i, .element "nodes" j] doc = some v

theorem Reaches.isIndexed {path : Location} {level : Level} {doc w : Json}
    (h : Reaches .root path level) (hw : path.resolve doc = some w) : IsIndexed doc path := by
  have happ : ∀ i, path.appIndex = some i ↔ ∃ rest, path = .element "apps" i :: rest := by
    intro i
    rcases h.cases_root with rfl | ⟨i, rfl | ⟨j, rfl⟩ | ⟨j, rfl | ⟨kind, k, rfl⟩⟩⟩ <;>
      simp [Location.appIndex, Location.indexIn]
  have hnode : ∀ j, path.nodeIndex = some j ↔
      ∃ i rest, path = .element "apps" i :: .element "nodes" j :: rest := by
    intro j
    rcases h.cases_root with rfl | ⟨i, rfl | ⟨j, rfl⟩ | ⟨j, rfl | ⟨kind, k, rfl⟩⟩⟩ <;>
      simp [Location.nodeIndex, Location.indexIn]
  refine ⟨happ, hnode, ?_, ?_⟩
  · intro i hi
    obtain ⟨rest, rfl⟩ := (happ i).mp hi
    exact exists_resolve_of_append [_] hw
  · intro i j hi hj
    obtain ⟨i', rest, rfl⟩ := (hnode j).mp hj
    obtain ⟨rest', hrest⟩ := (happ i).mp hi
    obtain rfl : i' = i := by simpa using (List.cons.inj hrest).1
    exact exists_resolve_of_append [_, _] hw

theorem indexIn_append_field (list key : String) (path : Location) :
    Location.indexIn list (path ++ [.field key]) = Location.indexIn list path := by
  induction path with
  | nil => rfl
  | cons s path ih =>
    cases s with
    | field name => exact ih
    | element list' i =>
      rw [List.cons_append, Location.indexIn, Location.indexIn, ih]

theorem IsPlace.isIndexed {doc : Json} {l : Location} (h : IsPlace .root doc l) :
    IsIndexed doc l := by
  obtain ⟨path, level, w, hpath, hw, rfl | ⟨o, key, -, rfl⟩⟩ := h
  · exact hpath.isIndexed hw
  · have hindexed := hpath.isIndexed hw
    have happ : Location.appIndex (path ++ [.field key]) = path.appIndex :=
      indexIn_append_field "apps" key path
    have hnode : Location.nodeIndex (path ++ [.field key]) = path.nodeIndex :=
      indexIn_append_field "nodes" key path
    -- A field is no element, so what follows elements may be cut off.
    have hfirst : ∀ i, (∃ rest, path ++ [.field key] = .element "apps" i :: rest) ↔
        ∃ rest, path = .element "apps" i :: rest := by
      intro i
      cases path <;> simp
    have hsecond : ∀ j, (∃ i rest,
        path ++ [.field key] = .element "apps" i :: .element "nodes" j :: rest) ↔
          ∃ i rest, path = .element "apps" i :: .element "nodes" j :: rest := by
      intro j
      match path with
      | [] | [_] | _ :: _ :: _ => simp
    refine ⟨?_, ?_, ?_, ?_⟩
    · intro i
      rw [happ, hfirst]
      exact hindexed.app i
    · intro j
      rw [hnode, hsecond]
      exact hindexed.node j
    · intro i hi
      exact hindexed.exists_app i (happ ▸ hi)
    · intro i j hi hj
      exact hindexed.exists_node i j (happ ▸ hi) (hnode ▸ hj)

end AppConfig.Document

import AppConfig.Proofs.Document.Notes

/-! # What diagnostics tell

* `Tells`: what a diagnostic of a code tells of an object; `IsTold`: the same of a document, at a
  location in it.
* `mem_ownNotes`: the diagnostics of an object, one by one; `tells_of_mem`, `exists_mem_of_tells`:
  they are those that tell the truth of it.
* `mem_notes`: the diagnostics of a document are those of the objects in it, each seen from the
  root.
-/

namespace AppConfig
set_option autoImplicit false

namespace Segment

def key : Segment → String
  | field name => name
  | element list _ => list

def index : Segment → Nat
  | field _ => 0
  | element _ index => index

end Segment

/-- The index of the last step, or the one given if there is no step. -/
def Location.lastIndex (index : Nat) : Location → Nat
  | [] => index
  | s :: rest => lastIndex s.index rest

namespace Document
open Fields (present?)

variable {o : Members} {key default : String} {d : Diagnostic}

/-! ## What diagnostics tell -/

/-- The fields with a default, and the defaults of an object at an index of its list. -/
def defaults : Level → Nat → List (String × String)
  | .app, _ => [("domain_id", "0")]
  | .entity kind, index =>
    [("identifier", kind.defaultId index), (kind.functionKey, kind.defaultFunction index)]
  | _, _ => []

def defaultedKeys : Level → List String
  | .app => ["domain_id"]
  | .entity kind => ["identifier", kind.functionKey]
  | _ => []

/-- The fields without a value of their own when they are absent. -/
def omittedKeys : Level → List String
  | .app => ["scheduler_config"]
  | .node => ["qos_config"]
  | .entity (.endpoint _) => ["msg_src"]
  | _ => []

/-- The location is that of a field of the object, one of the keys, which is absent or `null`. -/
def IsAbsent (o : Members) (keys : List String) (l : Location) : Prop :=
  ∃ key ∈ keys, l = [.field key] ∧ (o.get? key = none ∨ o.get? key = some .null)

/-- What a diagnostic at a location tells of an object of a level. -/
def Tells (level : Level) (o : Members) (l : Location) : DiagnosticCode → Prop
  | .fieldDefaulted => IsAbsent o (defaultedKeys level) l
  | .fieldOmitted => IsAbsent o (omittedKeys level) l
  | .notYetImplemented => level = .module ∧ l = []
  | .versionGroupsDiscarded => level = .root ∧ l = [.field "wolfes_version"] ∧
      ∃ s, o.get? "wolfes_version" = some (.string s) ∧
        Version.groupLimit < (Text.splitOn '.' s.toList).length
  | .homeExpanded => False

/-- What a diagnostic at a location tells of a document is told of an object that the location
leads to. -/
def IsTold (doc : Json) (l : Location) (code : DiagnosticCode) : Prop :=
  ∃ path level o rest, l = path ++ rest ∧ Reaches .root path level ∧
    path.resolve doc = some (.object o) ∧ Tells level o rest code

/-! ## The diagnostics of one object -/

theorem mem_defaultedNotes : d ∈ defaultedNotes o key default ↔
    d = .defaulted [.field key] default ∧ present? o key = none := by
  unfold defaultedNotes
  cases present? o key <;> simp

theorem mem_omittedNotes :
    d ∈ omittedNotes o key ↔ d = .omitted [.field key] ∧ present? o key = none := by
  unfold omittedNotes
  cases present? o key <;> simp

theorem mem_versionNotes : d ∈ versionNotes o ↔
    ∃ s, present? o "wolfes_version" = some (.string s) ∧
      ∃ e ∈ Version.notes s, e.under (.field "wolfes_version") = d := by
  unfold versionNotes
  split
  · next s hs => simp [hs]
  · next hne =>
    constructor
    · intro h
      cases h
    · rintro ⟨s, hs, -⟩
      exact absurd hs (hne s)

theorem map_fst_defaults (level : Level) (index : Nat) :
    (defaults level index).map Prod.fst = defaultedKeys level := by
  cases level <;> rfl

/-- The diagnostics of an object, one by one. -/
theorem mem_ownNotes {level : Level} {index : Nat} : d ∈ ownNotes level index o ↔
    (∃ p ∈ defaults level index, d = .defaulted [.field p.1] p.2 ∧ present? o p.1 = none) ∨
    (∃ key ∈ omittedKeys level, d = .omitted [.field key] ∧ present? o key = none) ∨
    (level = .module ∧ d = .placeholder [] "module") ∨ level = .root ∧ d ∈ versionNotes o := by
  cases level with
  | root => simp [ownNotes, defaults, omittedKeys]
  | app => simp [ownNotes, defaults, omittedKeys, mem_defaultedNotes, mem_omittedNotes]
  | node => simp [ownNotes, defaults, omittedKeys, mem_omittedNotes]
  | module => simp [ownNotes, defaults, omittedKeys]
  | entity kind =>
    cases kind with
    | timer => simp [ownNotes, sourceNotes, defaults, omittedKeys, mem_defaultedNotes]
    | endpoint kind =>
      simp only [ownNotes, sourceNotes, defaults, omittedKeys, List.mem_append, mem_defaultedNotes,
        mem_omittedNotes, List.mem_cons, List.not_mem_nil, or_false, exists_eq_or_imp,
        exists_eq_left, reduceCtorEq, false_and]
      rw [or_left_comm, or_comm, or_assoc]

/-- The diagnostics of an object tell the truth of it. -/
theorem tells_of_mem {level : Level} {index : Nat} (h : d ∈ ownNotes level index o) :
    Tells level o d.location d.code := by
  rcases mem_ownNotes.mp h with ⟨p, hp, rfl, hnone⟩ | ⟨key, hkey, rfl, hnone⟩ | ⟨rfl, rfl⟩ | ⟨rfl, h⟩
  · have hkey : p.1 ∈ defaultedKeys level := map_fst_defaults level index ▸ List.mem_map_of_mem hp
    exact ⟨p.1, hkey, rfl, Fields.present?_eq_none.mp hnone⟩
  · exact ⟨key, hkey, rfl, Fields.present?_eq_none.mp hnone⟩
  · exact ⟨rfl, rfl⟩
  · obtain ⟨s, hs, e, he, rfl⟩ := mem_versionNotes.mp h
    obtain ⟨hlocation, hcode, hgroups⟩ := Version.mem_notes he
    have hfield : (e.under (.field "wolfes_version")).location = [.field "wolfes_version"] :=
      congrArg _ hlocation
    rw [hfield, show (e.under (.field "wolfes_version")).code = _ from hcode]
    exact ⟨rfl, rfl, s, (Fields.present?_eq_some.mp hs).1, hgroups⟩

/-- What is true of an object is told of it, if the version text of the document is good. -/
theorem exists_mem_of_tells {level : Level} {l : Location} {code : DiagnosticCode}
    (hversion : level = .root → ∃ version, (readVersion o).result = .ok version)
    (h : Tells level o l code) (index : Nat) :
    ∃ d ∈ ownNotes level index o, d.location = l ∧ d.code = code := by
  cases code with
  | fieldDefaulted =>
    obtain ⟨key, hkey, rfl, hnone⟩ := h
    rw [← map_fst_defaults level index] at hkey
    obtain ⟨p, hp, rfl⟩ := List.mem_map.mp hkey
    have hpresent := Fields.present?_eq_none.mpr hnone
    exact ⟨_, mem_ownNotes.mpr (.inl ⟨p, hp, rfl, hpresent⟩), rfl, rfl⟩
  | fieldOmitted =>
    obtain ⟨key, hkey, rfl, hnone⟩ := h
    have hpresent := Fields.present?_eq_none.mpr hnone
    exact ⟨_, mem_ownNotes.mpr (.inr (.inl ⟨key, hkey, rfl, hpresent⟩)), rfl, rfl⟩
  | notYetImplemented =>
    obtain ⟨rfl, rfl⟩ := h
    exact ⟨_, mem_ownNotes.mpr (.inr (.inr (.inl ⟨rfl, rfl⟩))), rfl, rfl⟩
  | versionGroupsDiscarded =>
    obtain ⟨rfl, rfl, s, hs, hgroups⟩ := h
    have hpresent : present? o "wolfes_version" = some (.string s) :=
      Fields.present?_eq_some.mpr ⟨hs, by simp⟩
    obtain ⟨version, hread⟩ := hversion rfl
    obtain ⟨s', hs', hwritten⟩ := readVersion_result_ok.mp hread
    obtain rfl : s = s' := by simpa using hpresent.symm.trans hs'
    obtain ⟨e, he⟩ := List.exists_mem_of_ne_nil _
      (Version.notes_ne_nil (Version.ofText_result_ok.mpr hwritten) hgroups)
    obtain ⟨hlocation, hcode, -⟩ := Version.mem_notes he
    exact ⟨_, mem_versionNotes.mpr ⟨s, hpresent, e, he, rfl⟩, congrArg _ hlocation, hcode⟩
  | homeExpanded => exact h.elim

/-! ## The diagnostics of parts -/

theorem notes_eq (level : Level) (index : Nat) (o : Members) :
    notes level index o = ownNotes level index o ++
      (partLists level).flatMap fun p => listNotes o p.1 (notes p.2) := by
  cases level with
  | root =>
    simp only [notes, rootNotes, partLists, List.flatMap_cons, List.flatMap_nil, List.append_nil]
    rfl
  | app =>
    simp only [notes, appNotes, partLists, List.flatMap_cons, List.flatMap_nil, List.append_nil]
    rfl
  | node =>
    rw [partLists, List.flatMap_map]
    rfl
  | module => simp [notes, partLists]
  | entity kind => simp [notes, partLists]

theorem mem_objectNotes {f : Members → Diagnostics} {v : Json} :
    d ∈ objectNotes f v ↔ ∃ o, v = .object o ∧ d ∈ f o := by
  cases v <;> simp [objectNotes]

theorem resolve_element_eq_some {k : Nat} {v : Json} :
    (Segment.element key k).resolve (.object o) = some v ↔
      ∃ items, present? o key = some (.list items) ∧ items[k]? = some v := by
  rw [Segment.resolve]
  constructor
  · intro h
    split at h
    · next items hitems => exact ⟨items, Fields.present?_eq_some.mpr ⟨hitems, by simp⟩, h⟩
    · cases h
  · rintro ⟨items, hitems, hv⟩
    rw [(Fields.present?_eq_some.mp hitems).1]
    exact hv

theorem mem_listNotes {f : Nat → Members → Diagnostics} :
    d ∈ listNotes o key f ↔ ∃ k inner, (Segment.element key k).resolve (.object o) =
      some (.object inner) ∧ ∃ e ∈ f k inner, e.under (.element key k) = d := by
  simp only [resolve_element_eq_some]
  unfold listNotes
  split
  · next items hitems =>
    simp only [itemNotes, List.mem_flatten, List.mem_mapIdx, hitems]
    constructor
    · rintro ⟨_, ⟨k, hk, rfl⟩, hd⟩
      obtain ⟨e, he, rfl⟩ := List.mem_map.mp hd
      obtain ⟨inner, hinner, he⟩ := mem_objectNotes.mp he
      exact ⟨k, inner, ⟨items, rfl, by rw [List.getElem?_eq_getElem hk, hinner]⟩, e, he, rfl⟩
    · rintro ⟨k, inner, ⟨items', hitems', hinner⟩, e, he, rfl⟩
      obtain rfl : items = items' := by simpa using hitems'
      obtain ⟨hk, hget⟩ := List.getElem?_eq_some_iff.mp hinner
      exact ⟨_, ⟨k, hk, rfl⟩, List.mem_map_of_mem (mem_objectNotes.mpr ⟨inner, hget, he⟩)⟩
  · next hne =>
    constructor
    · intro h
      cases h
    · rintro ⟨k, inner, ⟨items, hitems, -⟩, -⟩
      exact absurd hitems (hne items)

theorem mem_notes_iff {level : Level} {index : Nat} :
    d ∈ notes level index o ↔ d ∈ ownNotes level index o ∨ ∃ s inner below, Step level s below ∧
      s.resolve (.object o) = some (.object inner) ∧
        ∃ e ∈ notes below s.index inner, e.under s = d := by
  rw [notes_eq, List.mem_append, List.mem_flatMap]
  refine or_congr_right ⟨?_, ?_⟩
  · rintro ⟨⟨key, below⟩, hp, hd⟩
    obtain ⟨k, inner, hinner, e, he, rfl⟩ := mem_listNotes.mp hd
    exact ⟨.element key k, inner, below, step_iff.mpr ⟨key, k, hp, rfl⟩, hinner, e, he, rfl⟩
  · rintro ⟨s, inner, below, hs, hinner, e, he, rfl⟩
    obtain ⟨key, k, hp, rfl⟩ := step_iff.mp hs
    exact ⟨(key, below), hp, mem_listNotes.mpr ⟨k, inner, hinner, e, he, rfl⟩⟩

/-- The diagnostics of an object are those of the objects in it, each seen from the whole. -/
theorem mem_notes {level : Level} {index : Nat} :
    d ∈ notes level index o ↔ ∃ path below inner, Reaches level path below ∧
      path.resolve (.object o) = some (.object inner) ∧
        ∃ e ∈ ownNotes below (path.lastIndex index) inner, e.within path = d := by
  constructor
  · -- Down the levels: what is not about the object itself is about an element of one of its lists.
    intro h
    induction level using level_induction generalizing index o d with | h level ih =>
    rcases mem_notes_iff.mp h with h | ⟨s, inner, below, hs, hinner, e, he, rfl⟩
    · exact ⟨[], level, o, .here level, rfl, d, h, rfl⟩
    · obtain ⟨key, k, hp, rfl⟩ := step_iff.mp hs
      obtain ⟨path, deep, innermost, hpath, hresolve, e', he', rfl⟩ := ih _ hp he
      exact ⟨.element key k :: path, deep, innermost, .step hs hpath,
        (resolve_cons hinner).trans hresolve, e', he', rfl⟩
  · -- Along the path, from the object that the diagnostic is about outwards.
    rintro ⟨path, below, inner, hpath, hresolve, e, he, rfl⟩
    induction hpath generalizing o index with
    | here level =>
      obtain rfl : o = inner := by simpa [Location.resolve] using hresolve
      exact mem_notes_iff.mpr (.inl he)
    | step first rest ih =>
      rw [Location.resolve] at hresolve
      obtain ⟨v, hv, hrest⟩ := Option.bind_eq_some_iff.mp hresolve
      obtain ⟨o', rfl⟩ := exists_object_of_resolve hrest
      exact mem_notes_iff.mpr (.inr ⟨_, o', _, first, hv, _, ih hrest he, rfl⟩)

end Document
end AppConfig

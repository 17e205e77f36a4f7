import AppConfig.Location
import AppConfig.Proofs.Json.Canonical
import AppConfig.Proofs.Json.Written

/-! # Locations and what is written of them

A step is written as a string or as an object, and which of the two it was is guessed from the
value.

* `Segment.FitsWord`: a word holds the index of a step.
* `Segment.ofJson?_toJson`, `Segment.ofJson?_canonical`: the value of a step is read as the step.
* `Location.ReadBack`: a location is read from its value, from its tree and from its texts.
* `Location.readBack_of_fitsWord`: every location is, and is told apart from all others.
-/

namespace AppConfig
set_option autoImplicit false
open Json (canonical Writable)

namespace Segment

/-- A word holds the index of the step. -/
def FitsWord : Segment → Prop
  | field _ => True
  | element _ index => index < UInt64.size

variable {s : Segment}

theorem isUnsigned64_index {index : Nat} (h : index < UInt64.size) : IsUnsigned64 index := by
  rw [UInt64.size] at h
  constructor <;> omega

theorem ofJson?_toJson (h : s.FitsWord) : ofJson? s.toJson = some s := by
  cases s with
  | field name => rfl
  | element list index =>
    have hindex := isUnsigned64_index h
    simp [toJson, ofJson?, Members.only?, hindex]

/-- The canonical form puts the index in front of the list. -/
theorem canonical_element (list : String) (index : Nat) :
    (element list index).toJson.canonical =
      .object [("index", .int index), ("list", .string list)] := by
  have hbefore : "index" < "list" := by decide
  simp [toJson, canonical, Json.canonicalMembers, Members.sorted, Members.insert, hbefore]

theorem ofJson?_canonical (h : s.FitsWord) : ofJson? s.toJson.canonical = some s := by
  cases s with
  | field name => rfl
  | element list index =>
    have hindex := isUnsigned64_index h
    rw [canonical_element]
    simp [ofJson?, Members.only?, hindex]

theorem writable_toJson (h : s.FitsWord) : s.toJson.Writable 1 := by
  cases s with
  | field name => exact .string 1 name
  | element list index =>
    refine .object ?_
    simp [Writable.string, Writable.int 0 (.inr (isUnsigned64_index h))]

end Segment

namespace Location
variable {l : Location}

theorem steps?_map {write : Segment → Json} (h : ∀ s ∈ l, Segment.ofJson? (write s) = some s) :
    steps? (.list (l.map write)) = some l := by
  rw [steps?]
  induction l with
  | nil => rfl
  | cons s rest ih =>
    have hrest := ih fun t ht => h t (List.mem_cons_of_mem s ht)
    rw [List.map_cons, List.mapM_cons, h s List.mem_cons_self, hrest]
    rfl

theorem ofJson?_steps (v : Json) : ofJson? (.object [(stepsKey, v)]) = steps? v := by
  simp [ofJson?, Members.only?]

theorem ofJson?_toJson (h : ∀ s ∈ l, s.FitsWord) : ofJson? l.toJson = some l := by
  rw [toJson, ofJson?_steps]
  exact steps?_map fun s hs => Segment.ofJson?_toJson (h s hs)

theorem canonical_toJson (l : Location) : l.toJson.canonical =
    .object [(stepsKey, .list (l.map fun s => s.toJson.canonical))] := by
  rw [toJson, canonical, Json.canonicalMembers, Json.canonicalMembers, Json.canonical_list,
    List.map_map]
  rfl

theorem ofJson?_canonical (h : ∀ s ∈ l, s.FitsWord) : ofJson? l.toJson.canonical = some l := by
  rw [canonical_toJson, ofJson?_steps]
  exact steps?_map fun s hs => Segment.ofJson?_canonical (h s hs)

theorem ofText?_write (h : ∀ s ∈ l, s.FitsWord) (layout : Layout) :
    ofText? (l.toJson.write layout) = some l := by
  have hsteps : (Json.list (l.map Segment.toJson)).Writable 2 := by
    refine .list fun v hv => ?_
    obtain ⟨s, hs, rfl⟩ := List.mem_map.mp hv
    exact Segment.writable_toJson (h s hs)
  have hkey : stepsKey ∈ [stepsKey] := List.mem_cons_self
  have hread := Json.readMembers_write hkey hsteps (by decide) layout
  rw [ofText?, toJson, hread]
  exact ofJson?_toJson h

/-- The location is read from its value, from its tree and from its texts. -/
structure ReadBack (l : Location) : Prop where
  value : ofJson? l.toJson = some l
  tree : ofJson? l.toJson.canonical = some l
  text : ∀ layout, ofText? (l.toJson.write layout) = some l

theorem readBack (h : ∀ s ∈ l, s.FitsWord) : ReadBack l :=
  ⟨ofJson?_toJson h, ofJson?_canonical h, ofText?_write h⟩

/-- Locations that are read back differ in whatever is written of them. -/
theorem ReadBack.ne {l' : Location} (h : ReadBack l) (h' : ReadBack l') (hne : l ≠ l') :
    l.toJson ≠ l'.toJson ∧ l.toJson.canonical ≠ l'.toJson.canonical ∧
      ∀ layout layout', l.toJson.write layout ≠ l'.toJson.write layout' := by
  refine ⟨fun heq => hne ?_, fun heq => hne ?_, fun layout layout' heq => hne ?_⟩
  · exact Option.some.inj (h.value.symm.trans ((congrArg ofJson? heq).trans h'.value))
  · exact Option.some.inj (h.tree.symm.trans ((congrArg ofJson? heq).trans h'.tree))
  · have htext := congrArg ofText? heq
    rw [h.text, h'.text] at htext
    exact Option.some.inj htext

/-- A location whose indices fit in words is read back from whatever is written of it, and differs
there from every other one. The value of a field is read as this field, whatever its name. -/
theorem readBack_of_fitsWord (l : Location) (h : ∀ s ∈ l, s.FitsWord) :
    ReadBack l ∧
    (∀ l' : Location, (∀ s ∈ l', s.FitsWord) → l ≠ l' →
      l.toJson ≠ l'.toJson ∧ l.toJson.canonical ≠ l'.toJson.canonical ∧
        ∀ layout layout', l.toJson.write layout ≠ l'.toJson.write layout') ∧
    ∀ name, Segment.ofJson? (Segment.field name).toJson = some (.field name) :=
  ⟨readBack h, fun _ h' hne => (readBack h).ne (readBack h') hne, fun _ => rfl⟩

/-- A field with brackets in its name, below the last element that a word can count. -/
theorem readBack_lastElement :
    (∀ s ∈ [Segment.element "apps" 18446744073709551615, .field "nodes[3]"], s.FitsWord) ∧
    ReadBack [.element "apps" 18446744073709551615, .field "nodes[3]"] ∧
    [Segment.element "apps" 18446744073709551615, .field "nodes[3]"] ≠ [.element "nodes" 3] ∧
    Location.toJson [.element "apps" 18446744073709551615, .field "nodes[3]"] ≠
      Location.toJson [.element "nodes" 3] := by
  have hfits : ∀ s ∈ [Segment.element "apps" 18446744073709551615, .field "nodes[3]"],
      s.FitsWord := by
    simp [Segment.FitsWord, UInt64.size]
  have hother : ∀ s ∈ [Segment.element "nodes" 3], s.FitsWord := by
    simp [Segment.FitsWord, UInt64.size]
  have hne : [Segment.element "apps" 18446744073709551615, .field "nodes[3]"] ≠
      [.element "nodes" 3] := by
    decide
  obtain ⟨hread, hdiffers, -⟩ := readBack_of_fitsWord _ hfits
  exact ⟨hfits, hread, hne, (hdiffers _ hother hne).1⟩

end Location
end AppConfig

import AppConfig.Json.Basic
import AppConfig.Proofs.Naming.Repeated

/-! # Members of objects

* `Members.get?_insert_self`, `Members.get?_filter`, `Members.get?_modifyList_self` and their like:
  what stands under a key after a change.
* `Json.mapObject`, `Json.mapList`, `Json.mapObjects`: changes of objects, lists and lists of
  objects that leave other values as they are; `Members.modifyList`: a change of the list under a
  key.
* `Json.HasDistinctKeys`: no object in the value has a key twice; `hasDistinctKeys_canonical`: so it
  is with every value in canonical form.
-/

namespace AppConfig
set_option autoImplicit false

namespace Json

def mapObject (f : Members → Members) : Json → Json
  | .object o => .object (f o)
  | v => v

def mapList (g : List Json → List Json) : Json → Json
  | .list items => .list (g items)
  | v => v

/-- The objects of a list changed, each by its index. -/
def mapObjects (f : Nat → Members → Members) (items : List Json) : List Json :=
  items.mapIdx fun k v => v.mapObject (f k)

theorem isNull_mapList (g : List Json → List Json) (v : Json) :
    (v.mapList g).isNull = v.isNull := by
  cases v <;> rfl

end Json

namespace Members

variable {key k : String} {v : Json} {o : Members}

/-! ## Insertion -/

theorem get?_insert_self (key : String) (v : Json) (o : Members) :
    (o.insert key v).get? key = some v := by
  induction o with
  | nil => simp [insert, get?]
  | cons m rest ih =>
    obtain ⟨k, w⟩ := m
    simp only [insert]
    split
    · simp [get?]
    · split
      · simp [get?]
      · next hne =>
        rw [get?, if_neg (fun h => hne h.symm)]
        exact ih

theorem get?_insert_of_ne {key k : String} (h : k ≠ key) (v : Json) (o : Members) :
    (o.insert key v).get? k = o.get? k := by
  induction o with
  | nil => simp [insert, get?, h.symm]
  | cons m rest ih =>
    obtain ⟨k', w⟩ := m
    simp only [insert]
    split
    · simp [get?, h.symm]
    · split
      · next heq =>
        subst heq
        simp [get?, h.symm]
      · simp only [get?, ih]

/-! ## Lists under a key -/

def modifyList (key : String) (g : List Json → List Json) (o : Members) : Members :=
  o.map fun m => (m.1, if m.1 = key then m.2.mapList g else m.2)

theorem get?_modifyList_self (key : String) (g : List Json → List Json) (o : Members) :
    (o.modifyList key g).get? key = (o.get? key).map (Json.mapList g) := by
  induction o with
  | nil => rfl
  | cons m rest ih =>
    have hcons : modifyList key g (m :: rest) =
        (m.1, if m.1 = key then m.2.mapList g else m.2) :: modifyList key g rest := rfl
    rw [hcons, get?, get?]
    by_cases hm : m.1 = key
    · simp [hm]
    · simp only [if_neg hm, ih]

theorem get?_modifyList_of_ne (h : k ≠ key) (g : List Json → List Json) (o : Members) :
    (o.modifyList key g).get? k = o.get? k := by
  induction o with
  | nil => rfl
  | cons m rest ih =>
    have hcons : modifyList key g (m :: rest) =
        (m.1, if m.1 = key then m.2.mapList g else m.2) :: modifyList key g rest := rfl
    rw [hcons, get?, get?, ih]
    by_cases hm : m.1 = k
    · have hkey : m.1 ≠ key := by
        rw [hm]
        exact h
      simp only [if_pos hm, if_neg hkey]
    · simp only [if_neg hm]

/-! ## Removal -/

theorem get?_eq_none (h : key ∉ o.map Prod.fst) : o.get? key = none := by
  induction o with
  | nil => rfl
  | cons m rest ih =>
    rw [List.map_cons, List.mem_cons, not_or] at h
    rw [get?, if_neg (fun heq => h.1 heq.symm)]
    exact ih h.2

/-- With distinct keys, a key has its value after a removal if that member stays. -/
theorem get?_filter {p : String × Json → Bool} (h : (o.map Prod.fst).Nodup) (key : String) :
    Members.get? key (o.filter p) = (o.get? key).filter fun v => p (key, v) := by
  induction o with
  | nil => rfl
  | cons m rest ih =>
    obtain ⟨k, w⟩ := m
    obtain ⟨hk, hrest⟩ := List.nodup_cons.mp h
    by_cases hkey : k = key
    · subst hkey
      have hnone : Members.get? k (rest.filter p) = none := by
        rw [ih hrest, get?_eq_none hk]
        rfl
      rw [get?, if_pos rfl, List.filter_cons]
      by_cases hp : p (k, w) = true
      · simp [hp, get?, Option.filter]
      · simp [hp, hnone, Option.filter]
    · have hskip : Members.get? key (List.filter p ((k, w) :: rest)) =
          Members.get? key (rest.filter p) := by
        rw [List.filter_cons]
        split
        · rw [get?, if_neg hkey]
        · rfl
      rw [hskip, ih hrest, get?, if_neg hkey]

/-! ## Canonical order -/

/-- Keys are kept as the repeated names of an app are. -/
theorem map_fst_insert (key : String) (v : Json) (o : Members) :
    (o.insert key v).map Prod.fst = insertName key (o.map Prod.fst) := by
  induction o with
  | nil => rfl
  | cons m rest ih =>
    obtain ⟨k, w⟩ := m
    rw [insert, List.map_cons, insertName]
    split
    · rfl
    · split
      · next heq => rw [List.map_cons, heq]
      · rw [List.map_cons, ih]

theorem pairwise_sorted (o : Members) : (o.sorted.map Prod.fst).Pairwise (· < ·) := by
  have hfold : ∀ (o done : Members), (done.map Prod.fst).Pairwise (· < ·) →
      ((o.foldl (fun done m => insert m.1 m.2 done) done).map Prod.fst).Pairwise (· < ·) := by
    intro o
    induction o with
    | nil => exact fun _ h => h
    | cons m rest ih =>
      intro done h
      refine ih _ ?_
      rw [map_fst_insert]
      exact pairwise_insertName m.1 h
  exact hfold o [] .nil

theorem mem_of_mem_insert {m : String × Json} (h : m ∈ o.insert key v) : m = (key, v) ∨ m ∈ o := by
  induction o with
  | nil => exact .inl (List.mem_singleton.mp h)
  | cons m' rest ih =>
    rw [insert] at h
    split at h
    · exact List.mem_cons.mp h
    · split at h
      · rcases List.mem_cons.mp h with h | h
        · exact .inl h
        · exact .inr (List.mem_cons_of_mem _ h)
      · rcases List.mem_cons.mp h with rfl | h
        · exact .inr List.mem_cons_self
        · exact (ih h).imp_right (List.mem_cons_of_mem _)

theorem mem_of_mem_sorted {m : String × Json} (h : m ∈ o.sorted) : m ∈ o := by
  have hfold : ∀ o done : Members,
      m ∈ o.foldl (fun done m => insert m.1 m.2 done) done → m ∈ done ∨ m ∈ o := by
    intro o
    induction o with
    | nil => exact fun _ h => .inl h
    | cons m' rest ih =>
      intro done h
      rcases ih _ h with h | h
      · rcases mem_of_mem_insert h with rfl | h
        · exact .inr List.mem_cons_self
        · exact .inl h
      · exact .inr (List.mem_cons_of_mem _ h)
  exact (hfold o [] h).resolve_left List.not_mem_nil

end Members

/-! ## Distinct keys -/

namespace Json

/-- No object in the value has a key twice. -/
inductive HasDistinctKeys : Json → Prop
  | null : HasDistinctKeys .null
  | bool (b : Bool) : HasDistinctKeys (.bool b)
  | int (n : Int) : HasDistinctKeys (.int n)
  | float (x : Binary64) : HasDistinctKeys (.float x)
  | string (s : String) : HasDistinctKeys (.string s)
  | list {items : List Json} (items_have : ∀ v ∈ items, HasDistinctKeys v) :
    HasDistinctKeys (.list items)
  | object {o : Members} (nodup : (o.map Prod.fst).Nodup)
    (values_have : ∀ m ∈ o, HasDistinctKeys m.2) : HasDistinctKeys (.object o)

mutual

theorem hasDistinctKeys_canonical : ∀ v : Json, v.canonical.HasDistinctKeys
  | .null => .null
  | .bool b => .bool b
  | .int n => .int n
  | .float x => .float x
  | .string s => .string s
  | .list items => .list (hasDistinctKeys_canonicalItems items)
  | .object o => by
    refine .object ((Members.pairwise_sorted _).imp ne_of_lt) fun m hm => ?_
    exact hasDistinctKeys_canonicalMembers o m (Members.mem_of_mem_sorted hm)

theorem hasDistinctKeys_canonicalItems :
    ∀ items : List Json, ∀ v ∈ canonicalItems items, v.HasDistinctKeys
  | [], v, h => by cases h
  | first :: rest, v, h => by
    rcases List.mem_cons.mp h with rfl | h
    · exact hasDistinctKeys_canonical first
    · exact hasDistinctKeys_canonicalItems rest v h

theorem hasDistinctKeys_canonicalMembers :
    ∀ o : Members, ∀ m ∈ canonicalMembers o, m.2.HasDistinctKeys
  | [], m, h => by cases h
  | (key, first) :: rest, m, h => by
    rcases List.mem_cons.mp h with rfl | h
    · exact hasDistinctKeys_canonical first
    · exact hasDistinctKeys_canonicalMembers rest m h

end

end Json

namespace Members

theorem mem_of_get? {key : String} {v : Json} {o : Members} (h : o.get? key = some v) :
    (key, v) ∈ o := by
  induction o with
  | nil => cases h
  | cons m rest ih =>
    obtain ⟨k, w⟩ := m
    rw [get?] at h
    split at h
    · next hk =>
      obtain rfl := Option.some.inj h
      rw [hk]
      exact List.mem_cons_self
    · exact List.mem_cons_of_mem _ (ih h)

end Members
end AppConfig

import AppConfig.Proofs.Json.Members

/-! # What the canonical form keeps

* `Members.get?_sorted`: sorted by key, members with distinct keys hold what they held before.
* `canonicalItems_eq`, `get?_canonicalMembers`: the canonical form of items and of members.
* `get?_of_canonical_eq`: objects with one canonical form hold, under each key, values with one
  canonical form; `canonical_list_injective`: the same of lists whose items are told apart.
-/

namespace AppConfig
set_option autoImplicit false

namespace Members

variable {key : String} {o : Members}

theorem get?_nil (key : String) : get? key [] = none := by rw [get?]

theorem get?_cons (key k : String) (v : Json) (rest : Members) :
    get? key ((k, v) :: rest) = if k = key then some v else get? key rest := by rw [get?]

/-- The values of later members stand in front of those that were put in before. -/
theorem get?_foldl_insert (h : (o.map Prod.fst).Nodup) (done : Members) :
    get? key (o.foldl (fun done m => insert m.1 m.2 done) done) =
      (o.get? key).or (done.get? key) := by
  induction o generalizing done with
  | nil => rfl
  | cons m rest ih =>
    obtain ⟨k, v⟩ := m
    obtain ⟨hk, hrest⟩ := List.nodup_cons.mp h
    rw [List.foldl_cons, ih hrest, get?]
    by_cases hkey : k = key
    · subst hkey
      rw [get?_eq_none hk, if_pos rfl, get?_insert_self]
      rfl
    · rw [if_neg hkey, get?_insert_of_ne (Ne.symm hkey)]

theorem get?_sorted (h : (o.map Prod.fst).Nodup) (key : String) :
    o.sorted.get? key = o.get? key := by
  rw [sorted, get?_foldl_insert h]
  exact Option.or_none

theorem get?_append (a b : Members) (key : String) :
    get? key (a ++ b) = (a.get? key).or (b.get? key) := by
  induction a with
  | nil => rfl
  | cons m rest ih =>
    obtain ⟨k, v⟩ := m
    rw [List.cons_append, get?, get?, ih]
    by_cases hkey : k = key
    · rw [if_pos hkey, if_pos hkey]
      rfl
    · rw [if_neg hkey, if_neg hkey]

end Members

namespace Json

theorem canonicalItems_eq (items : List Json) : canonicalItems items = items.map canonical := by
  induction items with
  | nil => rfl
  | cons v rest ih => rw [canonicalItems, ih, List.map_cons]

theorem map_fst_canonicalMembers (o : Members) :
    (canonicalMembers o).map Prod.fst = o.map Prod.fst := by
  induction o with
  | nil => rfl
  | cons m rest ih => rw [canonicalMembers, List.map_cons, List.map_cons, ih]

theorem get?_canonicalMembers (o : Members) (key : String) :
    (canonicalMembers o).get? key = (o.get? key).map canonical := by
  induction o with
  | nil => rfl
  | cons m rest ih =>
    obtain ⟨k, v⟩ := m
    rw [canonicalMembers, Members.get?, Members.get?, ih]
    by_cases hkey : k = key
    · rw [if_pos hkey, if_pos hkey]
      rfl
    · rw [if_neg hkey, if_neg hkey]

theorem get?_canonical {o : Members} (h : (o.map Prod.fst).Nodup) (key : String) :
    (canonicalMembers o).sorted.get? key = (o.get? key).map canonical := by
  have hkeys : ((canonicalMembers o).map Prod.fst).Nodup := by
    rw [map_fst_canonicalMembers]
    exact h
  rw [Members.get?_sorted hkeys, get?_canonicalMembers]

/-- Objects with one canonical form hold values with one canonical form under each key. -/
theorem get?_of_canonical_eq {o o' : Members} (ho : (o.map Prod.fst).Nodup)
    (ho' : (o'.map Prod.fst).Nodup) (h : canonical (.object o) = canonical (.object o'))
    (key : String) : (o.get? key).map canonical = (o'.get? key).map canonical := by
  have hmembers : (canonicalMembers o).sorted = (canonicalMembers o').sorted := by
    rw [canonical, canonical] at h
    exact Json.object.inj h
  rw [← get?_canonical ho, hmembers, get?_canonical ho']

theorem canonical_list (items : List Json) :
    canonical (.list items) = .list (items.map canonical) := by
  rw [canonical, canonicalItems_eq]

/-- A list can be told from its canonical form if each of its items can. -/
theorem canonical_list_injective {α : Type} {f : α → Json}
    (hf : Function.Injective fun a => (f a).canonical) :
    Function.Injective fun items : List α => (Json.list (items.map f)).canonical := by
  intro items items' h
  have hmaps : (items.map f).map canonical = (items'.map f).map canonical := by
    simp only [canonical_list] at h
    exact Json.list.inj h
  rw [List.map_map, List.map_map] at hmaps
  exact List.map_injective_iff.mpr hf hmaps

end Json
end AppConfig

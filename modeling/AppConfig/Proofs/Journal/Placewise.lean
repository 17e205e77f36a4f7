/-! # Lists read place by place

* `Placewise R items parts`: there are as many parts as items, and the part at each place is
  related to the item there. Neither loss nor repetition nor crossing is compatible with it.
* `exists_placewise`: parts exist when each item has one of its own.
* `Placewise.mapIdx_eq`, `Placewise.map_eq`: what is computed from the items and what is computed
  from the parts agree when they agree at each place.
-/

namespace AppConfig
set_option autoImplicit false

variable {α β γ : Type}

/-- As many parts as items, the part at each place related to the item there. -/
structure Placewise (R : Nat → α → β → Prop) (items : List α) (parts : List β) : Prop where
  length_eq : items.length = parts.length
  related : ∀ k a b, items[k]? = some a → parts[k]? = some b → R k a b

namespace Placewise

theorem nil {R : Nat → α → β → Prop} : Placewise R [] [] := ⟨rfl, by simp⟩

theorem cons_iff {R : Nat → α → β → Prop} {a : α} {items : List α} {parts : List β} :
    Placewise R (a :: items) parts ↔
      ∃ b rest, parts = b :: rest ∧ R 0 a b ∧ Placewise (fun k => R (k + 1)) items rest := by
  constructor
  · intro h
    cases parts with
    | nil => exact absurd h.length_eq (by simp)
    | cons b rest =>
      have hlen : items.length = rest.length := by simpa using h.length_eq
      exact ⟨b, rest, rfl, h.related 0 a b rfl rfl, hlen, fun k a' b' ha hb =>
        h.related (k + 1) a' b' (by simpa using ha) (by simpa using hb)⟩
  · rintro ⟨b, rest, rfl, hb, hrest⟩
    refine ⟨by simp [hrest.length_eq], ?_⟩
    intro k a' b' ha hb'
    cases k with
    | zero =>
      obtain rfl : a = a' := by simpa using ha
      obtain rfl : b = b' := by simpa using hb'
      exact hb
    | succ k => exact hrest.related k a' b' (by simpa using ha) (by simpa using hb')

theorem mono {R S : Nat → α → β → Prop} {items : List α} {parts : List β}
    (h : Placewise R items parts) (hRS : ∀ k a b, R k a b → S k a b) : Placewise S items parts :=
  ⟨h.length_eq, fun k a b ha hb => hRS k a b (h.related k a b ha hb)⟩

/-- The part that an item has become. -/
theorem exists_part {R : Nat → α → β → Prop} {items : List α} {parts : List β} {k : Nat} {a : α}
    (h : Placewise R items parts) (ha : items[k]? = some a) :
    ∃ b, parts[k]? = some b ∧ R k a b := by
  have hk : k < parts.length := by
    have := (List.getElem?_eq_some_iff.mp ha).1
    rw [← h.length_eq]
    exact this
  have hb : parts[k]? = some parts[k] := List.getElem?_eq_getElem hk
  exact ⟨parts[k], hb, h.related k a parts[k] ha hb⟩

/-- The item that the part at a place was made from. -/
theorem exists_item_at {R : Nat → α → β → Prop} {items : List α} {parts : List β} {k : Nat} {b : β}
    (h : Placewise R items parts) (hb : parts[k]? = some b) : ∃ a, items[k]? = some a ∧ R k a b := by
  have hlt : k < items.length := by
    have := (List.getElem?_eq_some_iff.mp hb).1
    rw [h.length_eq]
    exact this
  have ha : items[k]? = some items[k] := List.getElem?_eq_getElem hlt
  exact ⟨items[k], ha, h.related k items[k] b ha hb⟩

theorem exists_item {R : Nat → α → β → Prop} {items : List α} {parts : List β} {b : β}
    (h : Placewise R items parts) (hb : b ∈ parts) :
    ∃ k a, items[k]? = some a ∧ R k a b := by
  obtain ⟨k, hk⟩ := List.mem_iff_getElem?.mp hb
  exact ⟨k, h.exists_item_at hk⟩

/-- What is computed from the items at their places is what is computed from the parts. -/
theorem mapIdx_eq {R : Nat → α → β → Prop} {items : List α} {parts : List β} {g : Nat → α → γ}
    {p : β → γ} (h : Placewise R items parts)
    (hg : ∀ k a b, items[k]? = some a → b ∈ parts → R k a b → g k a = p b) :
    items.mapIdx g = parts.map p := by
  apply List.ext_getElem?
  intro k
  rw [List.getElem?_mapIdx, List.getElem?_map]
  cases ha : items[k]? with
  | none =>
    have hk : parts.length ≤ k := by
      rw [← h.length_eq]
      exact List.getElem?_eq_none_iff.mp ha
    rw [List.getElem?_eq_none hk]
    rfl
  | some a =>
    obtain ⟨b, hb, hr⟩ := h.exists_part ha
    rw [hb]
    exact congrArg some (hg k a b ha (List.mem_of_getElem? hb) hr)

theorem map_eq {R : Nat → α → β → Prop} {items : List α} {parts : List β} {g : α → γ} {p : β → γ}
    (h : Placewise R items parts)
    (hg : ∀ k a b, items[k]? = some a → b ∈ parts → R k a b → g a = p b) :
    items.map g = parts.map p := by
  have hmap : items.mapIdx (fun _ a => g a) = items.map g := by
    rw [List.mapIdx_eq_iff]
    intro k
    rw [List.getElem?_map]
  rw [← hmap]
  exact h.mapIdx_eq hg

theorem eq {items parts : List α} (h : Placewise (fun _ => Eq) items parts) : items = parts := by
  have hmap : items.map id = parts.map id := h.map_eq fun _ _ _ _ _ hab => hab
  rwa [List.map_id, List.map_id] at hmap

/-- Lists that agree in length at each place agree in length when they are joined. -/
theorem length_flatMap {δ : Type} {R : Nat → α → β → Prop} {items : List α} {parts : List β}
    {g : α → List γ} {p : β → List δ} (h : Placewise R items parts)
    (hg : ∀ k a b, items[k]? = some a → b ∈ parts → R k a b → (g a).length = (p b).length) :
    (items.flatMap g).length = (parts.flatMap p).length := by
  rw [List.length_flatMap, List.length_flatMap]
  exact congrArg List.sum (h.map_eq hg)

end Placewise

theorem forall_mem_take {P : α → Prop} {items : List α} {k : Nat} :
    (∀ a ∈ items.take k, P a) ↔ ∀ j a, j < k → items[j]? = some a → P a := by
  constructor
  · intro h j a hj ha
    refine h a (List.mem_iff_getElem?.mpr ⟨j, ?_⟩)
    rw [List.getElem?_take_of_lt hj, ha]
  · intro h a ha
    obtain ⟨j, hj⟩ := List.mem_iff_getElem?.mp ha
    rw [List.getElem?_take] at hj
    split at hj
    · next hlt => exact h j a hlt hj
    · cases hj

/-- Parts exist for a list of items when there is one for each item. -/
theorem exists_placewise {R : Nat → α → β → Prop} {items : List α} :
    (∃ parts, Placewise R items parts) ↔ ∀ k a, items[k]? = some a → ∃ b, R k a b := by
  constructor
  · rintro ⟨parts, h⟩ k a ha
    obtain ⟨b, -, hr⟩ := h.exists_part ha
    exact ⟨b, hr⟩
  · intro h
    induction items generalizing R with
    | nil => exact ⟨[], Placewise.nil⟩
    | cons a items ih =>
      obtain ⟨b, hb⟩ := h 0 a rfl
      obtain ⟨rest, hrest⟩ := ih (R := fun k => R (k + 1)) fun k a' ha => h (k + 1) a' (by simpa using ha)
      exact ⟨b :: rest, Placewise.cons_iff.mpr ⟨b, rest, rfl, hb, hrest⟩⟩

end AppConfig

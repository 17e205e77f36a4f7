import AppConfig.Proofs.Journal.Runs

/-! # The journal of a run over a list

* `elements_journal_ok`: a run over a list that ends with a value leaves what the runs of the
  elements leave, in order.
* `elements_journal_error`: one that fails leaves that much of the elements up to the first one
  that fails, and nothing of those after it.
-/

namespace AppConfig
set_option autoImplicit false

variable {α β : Type}

namespace Journal

@[simp] theorem diagnostics_nil : diagnostics [] = [] := rfl

@[simp] theorem diagnostics_under (s : Segment) (j : Journal) :
    diagnostics (j.under s) = (diagnostics j).map (Diagnostic.under s) := by
  induction j with
  | nil => rfl
  | cons entry rest ih =>
    have hone : diagnostics (Journal.under s [entry]) =
        (diagnostics [entry]).map (Diagnostic.under s) := by
      cases entry <;> rfl
    have hcons : Journal.under s (entry :: rest) =
        Journal.under s [entry] ++ Journal.under s rest := rfl
    rw [hcons, diagnostics_append, hone, ih, ← List.map_append, ← diagnostics_append,
      List.singleton_append]

theorem diagnostics_flatten (js : List Journal) :
    diagnostics js.flatten = (js.map diagnostics).flatten := by
  induction js with
  | nil => rfl
  | cons j js ih => rw [List.flatten_cons, diagnostics_append, ih, List.map_cons, List.flatten_cons]

theorem diagnostics_mapIdx (g : Nat → α → Journal) (items : List α) :
    diagnostics (items.mapIdx g).flatten =
      (items.mapIdx fun k a => diagnostics (g k a)).flatten := by
  have hmap : (items.mapIdx g).map diagnostics = items.mapIdx fun k a => diagnostics (g k a) := by
    rw [eq_comm, List.mapIdx_eq_iff]
    intro k
    rw [List.getElem?_map, List.getElem?_mapIdx, Option.map_map]
    rfl
  rw [diagnostics_flatten, hmap]

end Journal

namespace Outcome

theorem eachFrom_cons_ok {f : Nat → α → Outcome β} {a : α} {items : List α} {i : Nat} {b : β}
    (h : (f i a).result = .ok b) :
    (eachFrom f i (a :: items)).journal =
      (f i a).journal ++ (eachFrom f (i + 1) items).journal := by
  rw [eachFrom, bind_journal_ok h]
  cases hrest : (eachFrom f (i + 1) items).result with
  | error fault => rw [bind_journal_error hrest]
  | ok bs => rw [bind_journal_ok hrest, pure_journal, List.append_nil]

theorem eachFrom_journal_ok {f : Nat → α → Outcome β} {items : List α} {i : Nat}
    (h : ∀ k a, items[k]? = some a → ∃ b, (f (i + k) a).result = .ok b) :
    (eachFrom f i items).journal = (items.mapIdx fun k a => (f (i + k) a).journal).flatten := by
  induction items generalizing i with
  | nil => rfl
  | cons a items ih =>
    obtain ⟨b, hb⟩ : ∃ b, (f i a).result = .ok b := h 0 a rfl
    have hrest : ∀ k a', items[k]? = some a' → ∃ b, (f (i + 1 + k) a').result = .ok b := by
      intro k a' ha'
      have hk := h (k + 1) a' (by simpa using ha')
      rwa [show i + (k + 1) = i + 1 + k by omega] at hk
    rw [eachFrom_cons_ok hb, ih hrest, List.mapIdx_cons, List.flatten_cons]
    simp only [Nat.add_zero, Nat.add_assoc, Nat.add_comm 1]

theorem eachFrom_journal_error {f : Nat → α → Outcome β} {items : List α} {i k : Nat} {a : α}
    {fault : Fault} (ha : items[k]? = some a) (hf : (f (i + k) a).result = .error fault)
    (hbefore : ∀ k' a', k' < k → items[k']? = some a' → ∃ b, (f (i + k') a').result = .ok b) :
    (eachFrom f i items).journal =
      ((items.take (k + 1)).mapIdx fun k a => (f (i + k) a).journal).flatten := by
  induction items generalizing i k with
  | nil => cases ha
  | cons first items ih =>
    cases k with
    | zero =>
      obtain rfl : first = a := by simpa using ha
      have hfirst : (f i first).result = .error fault := hf
      rw [eachFrom, bind_journal_error hfirst]
      simp
    | succ k =>
      obtain ⟨b, hb⟩ : ∃ b, (f i first).result = .ok b := hbefore 0 first (by omega) rfl
      have hrest : ∀ k' a', k' < k → items[k']? = some a' →
          ∃ b, (f (i + 1 + k') a').result = .ok b := by
        intro k' a' hk' ha'
        have hb' := hbefore (k' + 1) a' (by omega) (by simpa using ha')
        rwa [show i + (k' + 1) = i + 1 + k' by omega] at hb'
      have hf' : (f (i + 1 + k) a).result = .error fault := by
        rwa [show i + (k + 1) = i + 1 + k by omega] at hf
      rw [eachFrom_cons_ok hb, ih (by simpa using ha) hf' hrest, List.take_succ_cons,
        List.mapIdx_cons, List.flatten_cons]
      simp only [Nat.add_zero, Nat.add_assoc, Nat.add_comm 1]

section Elements
variable {key : String} {f : Nat → α → Outcome β} {items : List α}

/-- The journal of a whole list is that of its elements, one after the other. -/
theorem elements_journal_ok (h : ∀ k a, items[k]? = some a → ∃ b, (f k a).result = .ok b) :
    (elements key items f).journal =
      (items.mapIdx fun k a => (f k a).journal.under (.element key k)).flatten := by
  have hunder : ∀ k a, items[k]? = some a →
      ∃ b, ((f (0 + k) a).under (.element key (0 + k))).result = .ok b := by
    intro k a ha
    obtain ⟨b, hb⟩ := h k a ha
    rw [Nat.zero_add]
    exact ⟨b, under_result_ok.mpr hb⟩
  rw [elements, each, eachFrom_journal_ok hunder]
  simp only [Nat.zero_add, under_journal]

/-- What stands after the first element that fails leaves nothing. -/
theorem elements_journal_error {k : Nat} {a : α} {fault : Fault} (ha : items[k]? = some a)
    (hf : (f k a).result = .error fault)
    (hbefore : ∀ k' a', k' < k → items[k']? = some a' → ∃ b, (f k' a').result = .ok b) :
    (elements key items f).journal =
      ((items.take (k + 1)).mapIdx fun k a => (f k a).journal.under (.element key k)).flatten := by
  have hfault : ((f (0 + k) a).under (.element key (0 + k))).result =
      .error (fault.under (.element key k)) := by
    rw [Nat.zero_add]
    exact under_of_error hf
  have hunder : ∀ k' a', k' < k → items[k']? = some a' →
      ∃ b, ((f (0 + k') a').under (.element key (0 + k'))).result = .ok b := by
    intro k' a' hk' ha'
    obtain ⟨b, hb⟩ := hbefore k' a' hk' ha'
    rw [Nat.zero_add]
    exact ⟨b, under_result_ok.mpr hb⟩
  rw [elements, each, eachFrom_journal_error ha hfault hunder]
  simp only [Nat.zero_add, under_journal]

theorem elements_result_error {fault : Fault} :
    (elements key items f).result = .error fault ↔
      ∃ k a inner, items[k]? = some a ∧ (f k a).result = .error inner ∧
        inner.under (.element key k) = fault ∧
          ∀ k' a', k' < k → items[k']? = some a' → ∃ b, (f k' a').result = .ok b := by
  simp only [elements, each_result_error, under_result_error, under_result_ok]
  constructor
  · rintro ⟨k, a, ha, ⟨inner, hinner, hfault⟩, hbefore⟩
    exact ⟨k, a, inner, ha, hinner, hfault, hbefore⟩
  · rintro ⟨k, a, inner, ha, hinner, hfault, hbefore⟩
    exact ⟨k, a, ha, ⟨inner, hinner, hfault⟩, hbefore⟩

theorem elements_singleton_journal (key : String) (f : Nat → α → Outcome β) (a : α) :
    (elements key [a] f).journal = (f 0 a).journal.under (.element key 0) := by
  cases h : (f 0 a).result with
  | error fault =>
    rw [elements_journal_error (k := 0) rfl h (by omega)]
    simp
  | ok b =>
    have hone : ∀ k a', [a][k]? = some a' → ∃ b, (f k a').result = .ok b := by
      intro k a' ha'
      have hk : k < 1 := (List.getElem?_eq_some_iff.mp ha').1
      obtain rfl : k = 0 := by omega
      obtain rfl : a = a' := Option.some.inj ha'
      exact ⟨b, h⟩
    rw [elements_journal_ok hone]
    simp

end Elements

end Outcome
end AppConfig

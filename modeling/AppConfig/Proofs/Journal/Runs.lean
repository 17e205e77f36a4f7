import AppConfig.Document.Fields
import AppConfig.Proofs.Journal.Placewise

/-! # What a run ends with

A run is taken apart along the steps it is made of.

* `under_result_ok`, `each_result_ok`, `elements_result_ok`: when the run of a part, or of each
  element of a list, ends with a value.
* `each_result_error`: the fault of a list is the one of the first run that fails.
* `Registers names x`: whenever `x` ends with a value, the names it has registered are those of
  the value.
* `FaultsIn P x`: every fault that `x` may end with satisfies `P`.
-/

namespace AppConfig
set_option autoImplicit false

variable {α β : Type}

namespace Journal

@[simp] theorem registered_nil : registered [] = [] := rfl

/-- Where a name stands does not matter to which names are registered. -/
@[simp] theorem registered_under (s : Segment) (j : Journal) :
    registered (j.under s) = registered j := by
  induction j with
  | nil => rfl
  | cons entry rest ih =>
    have hone : registered (Journal.under s [entry]) = registered [entry] := by
      cases entry with
      | noted d => rfl
      | logged e => cases e <;> rfl
    have hcons : Journal.under s (entry :: rest) = Journal.under s [entry] ++ Journal.under s rest :=
      rfl
    rw [hcons, registered_append, hone, ih, ← registered_append, List.singleton_append]

end Journal

namespace Outcome

/-! ## Runs of one entry, or of none -/

@[simp] theorem note_result (d : Diagnostic) : (note d).result = .ok () := rfl

@[simp] theorem log_result (e : Event) : (log e).result = .ok () := rfl

@[simp] theorem fail_result (fault : Fault) : (fail fault : Outcome α).result = .error fault := rfl

@[simp] theorem fail_journal (fault : Fault) : (fail fault : Outcome α).journal = [] := rfl

@[simp] theorem ofExcept_result (r : Except Fault α) : (ofExcept r).result = r := rfl

/-! ## Runs made of runs -/

theorem map_result_ok {x : Outcome α} {f : α → β} {b : β} :
    (f <$> x).result = .ok b ↔ ∃ a, x.result = .ok a ∧ f a = b := by
  rw [← bind_pure_comp, bind_result_ok]
  simp

theorem map_result_error {x : Outcome α} {f : α → β} {fault : Fault} :
    (f <$> x).result = .error fault ↔ x.result = .error fault := by
  rw [← bind_pure_comp, bind_result_error]
  simp

@[simp] theorem map_journal (f : α → β) (x : Outcome α) : (f <$> x).journal = x.journal := by
  rw [← bind_pure_comp]
  cases h : x.result with
  | error fault => rw [bind_journal_error h]
  | ok a => rw [bind_journal_ok h, pure_journal, List.append_nil]

theorem listen_result_ok {x : Outcome α} {a : α} {j : Journal} :
    x.listen.result = .ok (a, j) ↔ x.result = .ok a ∧ x.journal = j := by
  unfold listen
  cases x.result with
  | error fault => simp [Except.map]
  | ok a' => simp [Except.map]

theorem listen_result_error {x : Outcome α} {fault : Fault} :
    x.listen.result = .error fault ↔ x.result = .error fault := by
  unfold listen
  cases x.result with
  | error fault' => simp [Except.map]
  | ok a => simp [Except.map]

theorem under_of_ok {s : Segment} {x : Outcome α} {a : α} (h : x.result = .ok a) :
    (x.under s).result = .ok a := congrArg (Except.mapError (Fault.under s)) h

theorem under_of_error {s : Segment} {x : Outcome α} {fault : Fault} (h : x.result = .error fault) :
    (x.under s).result = .error (fault.under s) := congrArg (Except.mapError (Fault.under s)) h

theorem under_result_ok {s : Segment} {x : Outcome α} {a : α} :
    (x.under s).result = .ok a ↔ x.result = .ok a := by
  cases h : x.result with
  | error fault => simp [under_of_error h]
  | ok a' => simp [under_of_ok h]

theorem under_result_error {s : Segment} {x : Outcome α} {fault : Fault} :
    (x.under s).result = .error fault ↔ ∃ inner, x.result = .error inner ∧ inner.under s = fault := by
  cases h : x.result with
  | error inner => simp [under_of_error h]
  | ok a => simp [under_of_ok h]

@[simp] theorem under_journal (s : Segment) (x : Outcome α) :
    (x.under s).journal = x.journal.under s := rfl

/-! ## Lists -/

theorem eachFrom_result_ok {f : Nat → α → Outcome β} {items : List α} {i : Nat} {bs : List β} :
    (eachFrom f i items).result = .ok bs ↔
      Placewise (fun k a b => (f (i + k) a).result = .ok b) items bs := by
  induction items generalizing i bs with
  | nil =>
    constructor
    · intro h
      obtain rfl : [] = bs := by simpa [eachFrom] using h
      exact Placewise.nil
    · intro h
      have hlen : bs = [] := List.length_eq_zero_iff.mp h.length_eq.symm
      rw [hlen]
      rfl
  | cons a items ih =>
    have hshift : (fun k a b => (f (i + 1 + k) a).result = .ok b) =
        fun k a (b : β) => (f (i + (k + 1)) a).result = .ok b := by
      funext k a b
      rw [show i + 1 + k = i + (k + 1) by omega]
    simp only [eachFrom, bind_result_ok, pure_result, Except.ok.injEq, ih, Placewise.cons_iff,
      hshift, Nat.add_zero]
    constructor
    · rintro ⟨b, hb, rest, hrest, rfl⟩
      exact ⟨b, rest, rfl, hb, hrest⟩
    · rintro ⟨b, rest, rfl, hb, hrest⟩
      exact ⟨b, hb, rest, hrest, rfl⟩

theorem eachFrom_result_error {f : Nat → α → Outcome β} {items : List α} {i : Nat}
    {fault : Fault} :
    (eachFrom f i items).result = .error fault ↔
      ∃ k a, items[k]? = some a ∧ (f (i + k) a).result = .error fault ∧
        ∀ k' a', k' < k → items[k']? = some a' → ∃ b, (f (i + k') a').result = .ok b := by
  induction items generalizing i with
  | nil => simp [eachFrom]
  | cons a items ih =>
    have hlater : (∃ b, (f i a).result = .ok b ∧ (eachFrom f (i + 1) items).result = .error fault) ↔
        ∃ k a', items[k]? = some a' ∧ (f (i + (k + 1)) a').result = .error fault ∧
          ∀ k' a'', k' < k + 1 → (a :: items)[k']? = some a'' → ∃ b, (f (i + k') a'').result = .ok b := by
      constructor
      · rintro ⟨b, hb, hrest⟩
        obtain ⟨k, a', ha', hf, hbefore⟩ := ih.mp hrest
        refine ⟨k, a', ha', by rwa [show i + (k + 1) = i + 1 + k by omega], ?_⟩
        intro k' a'' hk' ha''
        cases k' with
        | zero =>
          obtain rfl : a = a'' := by simpa using ha''
          exact ⟨b, hb⟩
        | succ k' =>
          have h := hbefore k' a'' (by omega) (by simpa using ha'')
          rwa [show i + (k' + 1) = i + 1 + k' by omega]
      · rintro ⟨k, a', ha', hf, hbefore⟩
        obtain ⟨b, hb⟩ := hbefore 0 a (by omega) rfl
        refine ⟨b, hb, ih.mpr ⟨k, a', ha', by rwa [show i + 1 + k = i + (k + 1) by omega], ?_⟩⟩
        intro k' a'' hk' ha''
        have h := hbefore (k' + 1) a'' (by omega) (by simpa using ha'')
        rwa [show i + 1 + k' = i + (k' + 1) by omega]
    have hrun : (eachFrom f i (a :: items)).result = .error fault ↔ (f i a).result = .error fault ∨
        ∃ b, (f i a).result = .ok b ∧ (eachFrom f (i + 1) items).result = .error fault := by
      simp only [eachFrom, bind_result_error, pure_result, reduceCtorEq, and_false, exists_false,
        or_false]
    rw [hrun, hlater]
    constructor
    · rintro (h | ⟨k, a', ha', hf, hbefore⟩)
      · exact ⟨0, a, rfl, h, by omega⟩
      · exact ⟨k + 1, a', by simpa using ha', hf, hbefore⟩
    · rintro ⟨k, a', ha', hf, hbefore⟩
      cases k with
      | zero =>
        obtain rfl : a = a' := by simpa using ha'
        exact .inl hf
      | succ k => exact .inr ⟨k, a', by simpa using ha', hf, hbefore⟩

theorem each_result_ok {f : Nat → α → Outcome β} {items : List α} {bs : List β} :
    (each items f).result = .ok bs ↔ Placewise (fun k a b => (f k a).result = .ok b) items bs := by
  rw [each, eachFrom_result_ok]
  simp only [Nat.zero_add]

/-- The fault of a list is that of its first element whose run fails. -/
theorem each_result_error {f : Nat → α → Outcome β} {items : List α} {fault : Fault} :
    (each items f).result = .error fault ↔
      ∃ k a, items[k]? = some a ∧ (f k a).result = .error fault ∧
        ∀ k' a', k' < k → items[k']? = some a' → ∃ b, (f k' a').result = .ok b := by
  rw [each, eachFrom_result_error]
  simp only [Nat.zero_add]

theorem elements_result_ok {key : String} {f : Nat → α → Outcome β} {items : List α}
    {bs : List β} :
    (elements key items f).result = .ok bs ↔
      Placewise (fun k a b => (f k a).result = .ok b) items bs := by
  rw [elements, each_result_ok]
  simp only [under_result_ok]

/-! ## Names -/

/-- Whenever the run ends with a value, the names it has registered are those of the value. -/
def Registers (names : α → List String) (x : Outcome α) : Prop :=
  ∀ a, x.result = .ok a → x.journal.registered = names a

theorem bind_registered_ok {x : Outcome α} {f : α → Outcome β} {a : α} (h : x.result = .ok a) :
    (x >>= f).journal.registered = x.journal.registered ++ (f a).journal.registered := by
  rw [bind_journal_ok h, Journal.registered_append]

/-- Two runs in a row register nothing if neither does. -/
theorem registered_bind_nil {x : Outcome α} {f : α → Outcome β} (hx : x.journal.registered = [])
    (hf : ∀ a, (f a).journal.registered = []) : (x >>= f).journal.registered = [] := by
  cases h : x.result with
  | error fault => rw [bind_journal_error h, hx]
  | ok a => rw [bind_registered_ok h, hx, hf a, List.append_nil]

theorem Registers.eachFrom {names : β → List String} {f : Nat → α → Outcome β} {items : List α}
    {i : Nat} (h : ∀ k a, Registers names (f k a)) :
    Registers (fun bs => bs.flatMap names) (eachFrom f i items) := by
  induction items generalizing i with
  | nil =>
    intro bs hbs
    obtain rfl : [] = bs := by simpa [Outcome.eachFrom] using hbs
    rfl
  | cons a items ih =>
    intro bs hbs
    simp only [Outcome.eachFrom, bind_result_ok, pure_result, Except.ok.injEq] at hbs
    obtain ⟨b, hb, rest, hrest, rfl⟩ := hbs
    rw [Outcome.eachFrom, bind_registered_ok hb, bind_registered_ok hrest, h i a b hb,
      ih rest hrest]
    simp

/-- The names of a list are those of its elements, in order. -/
theorem Registers.elements {names : β → List String} {f : Nat → α → Outcome β} {items : List α}
    {key : String} (h : ∀ k a, Registers names (f k a)) :
    Registers (fun bs => bs.flatMap names) (elements key items f) := by
  apply Registers.eachFrom
  intro k a b hb
  rw [under_journal, Journal.registered_under]
  exact h k a b (under_result_ok.mp hb)

/-! ## Faults -/

/-- Every fault that the run may end with satisfies `P`. -/
def FaultsIn (P : Fault → Prop) (x : Outcome α) : Prop :=
  ∀ fault, x.result = .error fault → P fault

section Faults
variable {P : Fault → Prop}

theorem FaultsIn.of_ok {x : Outcome α} {a : α} (h : x.result = .ok a) : FaultsIn P x := by
  intro fault hf
  rw [h] at hf
  cases hf

theorem FaultsIn.pure (a : α) : FaultsIn P (pure a : Outcome α) := FaultsIn.of_ok rfl

theorem FaultsIn.note (d : Diagnostic) : FaultsIn P (note d) := FaultsIn.of_ok rfl

theorem FaultsIn.log (e : Event) : FaultsIn P (log e) := FaultsIn.of_ok rfl

theorem FaultsIn.fail {fault : Fault} (h : P fault) : FaultsIn P (fail fault : Outcome α) := by
  intro fault' hf
  obtain rfl : fault = fault' := by simpa using hf
  exact h

theorem FaultsIn.bind {x : Outcome α} {f : α → Outcome β} (hx : FaultsIn P x)
    (hf : ∀ a, x.result = .ok a → FaultsIn P (f a)) : FaultsIn P (x >>= f) := by
  intro fault h
  rcases bind_result_error.mp h with h | ⟨a, ha, h⟩
  · exact hx fault h
  · exact hf a ha fault h

theorem FaultsIn.map {x : Outcome α} (f : α → β) (h : FaultsIn P x) : FaultsIn P (f <$> x) :=
  fun fault hf => h fault (map_result_error.mp hf)

theorem FaultsIn.listen {x : Outcome α} (h : FaultsIn P x) : FaultsIn P x.listen :=
  fun fault hf => h fault (listen_result_error.mp hf)

theorem FaultsIn.under {s : Segment} {x : Outcome α}
    (h : FaultsIn (fun fault => P (fault.under s)) x) : FaultsIn P (x.under s) := by
  intro fault hf
  obtain ⟨inner, hinner, rfl⟩ := under_result_error.mp hf
  exact h inner hinner

theorem FaultsIn.elements {key : String} {f : Nat → α → Outcome β} {items : List α}
    (h : ∀ k a, items[k]? = some a →
      FaultsIn (fun fault => P (fault.under (.element key k))) (f k a)) :
    FaultsIn P (elements key items f) := by
  intro fault hf
  obtain ⟨k, a, ha, hrun, -⟩ := each_result_error.mp hf
  exact FaultsIn.under (h k a ha) fault hrun

end Faults

end Outcome
end AppConfig

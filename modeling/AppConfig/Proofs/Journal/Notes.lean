import AppConfig.Proofs.Journal.Lists

/-! # What a run notes

`Leaves notes x`: whatever `x` ends with, its diagnostics are an initial part of `notes`, and they
are all of `notes` if it ends with a value. One rule for each way to make runs of runs.
-/

namespace AppConfig
set_option autoImplicit false

/-- The diagnostic of a part some steps inside the whole. -/
def Diagnostic.within (path : Location) (d : Diagnostic) : Diagnostic :=
  { d with location := path ++ d.location }

namespace Outcome

variable {α β : Type} {a b : Diagnostics}

/-- The diagnostics of the run begin the list, and are the list if the run ends with a value. -/
structure Leaves (notes : Diagnostics) (x : Outcome α) : Prop where
  begins : x.journal.diagnostics <+: notes
  complete : ∀ v, x.result = .ok v → x.journal.diagnostics = notes

namespace Leaves

theorem of_eq {x : Outcome α} (h : x.journal.diagnostics = a) : Leaves a x :=
  ⟨h ▸ List.prefix_rfl, fun _ _ => h⟩

theorem of_silent {x : Outcome α} (h : x.journal = []) : Leaves [] x := of_eq (by rw [h]; rfl)

theorem pure (v : α) : Leaves [] (pure v : Outcome α) := of_eq rfl

theorem note (d : Diagnostic) : Leaves [d] (note d) := of_eq rfl

theorem log (e : Event) : Leaves [] (log e) := of_eq rfl

theorem fail (fault : Fault) : Leaves a (fail fault : Outcome α) :=
  ⟨List.nil_prefix, fun _ h => by cases h⟩

theorem bind {x : Outcome α} {f : α → Outcome β} (hx : Leaves a x)
    (hf : ∀ v, x.result = .ok v → Leaves b (f v)) : Leaves (a ++ b) (x >>= f) := by
  cases h : x.result with
  | error fault =>
    rw [bind_of_error h]
    exact ⟨hx.begins.trans (List.prefix_append a b), fun _ hv => by cases hv⟩
  | ok v =>
    have hv := hf v h
    rw [bind_of_ok h]
    refine ⟨?_, fun w hw => ?_⟩
    · rw [Journal.diagnostics_append, hx.complete v h]
      exact (List.prefix_append_right_inj a).mpr hv.begins
    · rw [Journal.diagnostics_append, hx.complete v h, hv.complete w hw]

theorem silent_bind {x : Outcome α} {f : α → Outcome β} (hx : Leaves [] x)
    (hf : ∀ v, x.result = .ok v → Leaves b (f v)) : Leaves b (x >>= f) := hx.bind hf

theorem bind_silent {x : Outcome α} {f : α → Outcome β} (hx : Leaves a x)
    (hf : ∀ v, x.result = .ok v → Leaves [] (f v)) : Leaves a (x >>= f) := by
  rw [← List.append_nil a]
  exact hx.bind hf

theorem listen {x : Outcome α} (hx : Leaves a x) : Leaves a x.listen := by
  refine ⟨hx.begins, fun v hv => ?_⟩
  obtain ⟨w, j⟩ := v
  exact hx.complete w (listen_result_ok.mp hv).1

theorem under (s : Segment) {x : Outcome α} (hx : Leaves a x) :
    Leaves (a.map (Diagnostic.under s)) (x.under s) := by
  refine ⟨?_, fun v hv => ?_⟩
  · rw [under_journal, Journal.diagnostics_under]
    exact hx.begins.map (Diagnostic.under s)
  · rw [under_journal, Journal.diagnostics_under, hx.complete v (under_result_ok.mp hv)]

theorem eachFrom {f : Nat → α → Outcome β} {g : Nat → α → Diagnostics} {items : List α}
    {i : Nat} (h : ∀ k v, items[k]? = some v → Leaves (g (i + k) v) (f (i + k) v)) :
    Leaves (items.mapIdx fun k v => g (i + k) v).flatten (eachFrom f i items) := by
  induction items generalizing i with
  | nil => exact pure []
  | cons v items ih =>
    have hfirst : Leaves (g i v) (f i v) := h 0 v rfl
    have hrest : ∀ k v', items[k]? = some v' →
        Leaves (g (i + 1 + k) v') (f (i + 1 + k) v') := by
      intro k v' hv'
      have hk := h (k + 1) v' (by simpa using hv')
      rwa [show i + (k + 1) = i + 1 + k by omega] at hk
    rw [List.mapIdx_cons, List.flatten_cons]
    refine hfirst.bind fun w _ => ?_
    have hlater := (ih hrest).bind_silent (f := fun ws => Pure.pure (w :: ws)) fun ws _ => pure _
    simpa only [Nat.add_assoc, Nat.add_comm 1] using hlater

/-- The diagnostics of a list are those of its elements, one element after the other. -/
theorem elements {key : String} {f : Nat → α → Outcome β} {notes : Nat → α → Diagnostics}
    {items : List α} (h : ∀ k v, items[k]? = some v → Leaves (notes k v) (f k v)) :
    Leaves (items.mapIdx fun k v => (notes k v).map (Diagnostic.under (.element key k))).flatten
      (elements key items f) := by
  have hunder : ∀ k v, items[k]? = some v →
      Leaves ((notes (0 + k) v).map (Diagnostic.under (.element key (0 + k))))
        ((f (0 + k) v).under (.element key (0 + k))) := by
    intro k v hv
    rw [Nat.zero_add]
    exact (h k v hv).under _
  have hrun : Leaves (items.mapIdx fun k v =>
      (notes (0 + k) v).map (Diagnostic.under (.element key (0 + k)))).flatten
        (Outcome.eachFrom (fun k v => (f k v).under (.element key k)) 0 items) :=
    eachFrom (g := fun k v => (notes k v).map (Diagnostic.under (.element key k))) hunder
  simp only [Nat.zero_add] at hrun
  exact hrun

end Leaves

end Outcome
end AppConfig

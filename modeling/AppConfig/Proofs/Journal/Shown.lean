import AppConfig.Proofs.Journal.Lists

/-! # What a run shows

* `Shows r notes x`: the run ends with the result and has left these diagnostics. What it logs is
  not shown.
* `Shows.bind`, `Shows.stop`, `Shows.map`, `Shows.told`: runs in a row.
-/

namespace AppConfig.Outcome
set_option autoImplicit false

variable {α β : Type}

/-- The result of the run and its diagnostics. -/
structure Shows (r : Except Fault α) (notes : Diagnostics) (x : Outcome α) : Prop where
  result : x.result = r
  diagnostics : x.journal.diagnostics = notes

namespace Shows

variable {r : Except Fault α} {notes notes' : Diagnostics} {x : Outcome α}

theorem self (x : Outcome α) : Shows x.result x.journal.diagnostics x := ⟨rfl, rfl⟩

theorem pure (a : α) : Shows (.ok a) [] (pure a : Outcome α) := ⟨rfl, rfl⟩

theorem log (e : Event) : Shows (.ok ()) [] (log e) := ⟨rfl, rfl⟩

theorem fail (fault : Fault) : Shows (.error fault) [] (fail fault : Outcome α) := ⟨rfl, rfl⟩

theorem ofExcept (r : Except Fault α) : Shows r [] (ofExcept r) := ⟨rfl, rfl⟩

theorem bind {a : α} {f : α → Outcome β} {r : Except Fault β} (hx : Shows (.ok a) notes x)
    (hf : Shows r notes' (f a)) : Shows r (notes ++ notes') (x >>= f) := by
  rw [bind_of_ok hx.result]
  refine ⟨hf.result, ?_⟩
  rw [Journal.diagnostics_append, hx.diagnostics, hf.diagnostics]

theorem stop {fault : Fault} (hx : Shows (.error fault) notes x) (f : α → Outcome β) :
    Shows (.error fault) notes (x >>= f) := by
  rw [bind_of_error hx.result]
  exact ⟨rfl, hx.diagnostics⟩

/-- The first part leaves no diagnostic. -/
theorem silent_bind {a : α} {f : α → Outcome β} {r : Except Fault β} (hx : Shows (.ok a) [] x)
    (hf : Shows r notes (f a)) : Shows r notes (x >>= f) := hx.bind hf

/-- The rest leaves no diagnostic, whatever the first part ends with. -/
theorem bind_silent {f : α → Outcome β} {g : α → Except Fault β} (hx : Shows r notes x)
    (hf : ∀ a, Shows (g a) [] (f a)) : Shows (r.bind g) notes (x >>= f) := by
  rcases r with fault | a
  · exact hx.stop f
  · have hrest := hx.bind (hf a)
    rwa [List.append_nil] at hrest

/-- Something is logged at the end. -/
theorem told (hx : Shows r notes x) (e : α → Event) (f : α → β) :
    Shows (r.map f) notes (x >>= fun a => Outcome.log (e a) >>= fun _ => Pure.pure (f a)) := by
  have hrest : ∀ a, Shows (.ok (f a)) [] (Outcome.log (e a) >>= fun _ => Pure.pure (f a)) :=
    fun a => (log (e a)).silent_bind (pure (f a))
  rcases r with fault | a
  · exact hx.stop _
  · exact hx.bind_silent hrest

end Shows

end AppConfig.Outcome

import AppConfig.Proofs.Journal.Runs

/-! # Runs that are the same but for some faults

* `EndsIn P x`: the run ends with a fault that satisfies `P`; `endsIn_bind` and its like say in
  which of its parts.
* `EqUnless P Q x y`: `x` ends with a fault that satisfies `P`, or `y` with one that satisfies `Q`,
  or they are the same run.
* `EqUnless.bind`, `EqUnless.under`, `EqUnless.elements`: runs made alike of such runs are such runs.
  Once one of two runs has ended with such a fault it does not go on, so nothing is asked of what
  would follow.
-/

namespace AppConfig.Outcome
set_option autoImplicit false

variable {α β : Type} {P Q : Fault → Prop}

/-- The run ends with such a fault. -/
def EndsIn (P : Fault → Prop) (x : Outcome α) : Prop := ∃ fault, x.result = .error fault ∧ P fault

theorem not_endsIn_of_ok {x : Outcome α} {a : α} (h : x.result = .ok a) : ¬ EndsIn P x := by
  rintro ⟨fault, hfault, -⟩
  rw [h] at hfault
  cases hfault

/-- A run of two parts ends so in the first of them, or in the second after a value of the first. -/
theorem endsIn_bind {x : Outcome α} {f : α → Outcome β} :
    EndsIn P (x >>= f) ↔ EndsIn P x ∨ ∃ a, x.result = .ok a ∧ EndsIn P (f a) := by
  constructor
  · rintro ⟨fault, hfault, hP⟩
    rcases bind_result_error.mp hfault with hx | ⟨a, ha, hf⟩
    · exact .inl ⟨fault, hx, hP⟩
    · exact .inr ⟨a, ha, fault, hf, hP⟩
  · rintro (⟨fault, hx, hP⟩ | ⟨a, ha, fault, hf, hP⟩)
    · exact ⟨fault, bind_result_error.mpr (.inl hx), hP⟩
    · exact ⟨fault, bind_result_error.mpr (.inr ⟨a, ha, hf⟩), hP⟩

theorem endsIn_listen {x : Outcome α} : EndsIn P x.listen ↔ EndsIn P x := by
  simp only [EndsIn, listen_result_error]

theorem endsIn_under {s : Segment} {x : Outcome α} :
    EndsIn P (x.under s) ↔ EndsIn (fun fault => P (fault.under s)) x := by
  constructor
  · rintro ⟨fault, hfault, hP⟩
    obtain ⟨inner, hinner, rfl⟩ := under_result_error.mp hfault
    exact ⟨inner, hinner, hP⟩
  · rintro ⟨inner, hinner, hP⟩
    exact ⟨_, under_of_error hinner, hP⟩

theorem EndsIn.under {x : Outcome α} (h : EndsIn P x) (hP : ∀ s fault, P fault → P (fault.under s))
    (s : Segment) : EndsIn P (x.under s) := by
  obtain ⟨fault, hfault, hholds⟩ := h
  exact endsIn_under.mpr ⟨fault, hfault, hP s fault hholds⟩

/-- The first run ends with a fault that satisfies `P`, or the second with one that satisfies `Q`,
or they are the same. -/
inductive EqUnless (P Q : Fault → Prop) (x y : Outcome α) : Prop
  | left (h : EndsIn P x)
  | right (h : EndsIn Q y)
  | same (h : x = y)

namespace EqUnless

theorem refl (x : Outcome α) : EqUnless P Q x x := .same rfl

theorem bind {x y : Outcome α} {f g : α → Outcome β} (h : EqUnless P Q x y)
    (hrest : ∀ a, EqUnless P Q (f a) (g a)) : EqUnless P Q (x >>= f) (y >>= g) := by
  cases h with
  | left hx => exact .left (endsIn_bind.mpr (.inl hx))
  | right hy => exact .right (endsIn_bind.mpr (.inl hy))
  | same hsame =>
    subst hsame
    cases hx : x.result with
    | error fault => exact .same (by rw [bind_of_error hx, bind_of_error hx])
    | ok a =>
      cases hrest a with
      | left hf => exact .left (endsIn_bind.mpr (.inr ⟨a, hx, hf⟩))
      | right hg => exact .right (endsIn_bind.mpr (.inr ⟨a, hx, hg⟩))
      | same hfg => exact .same (by rw [bind_of_ok hx, bind_of_ok hx, hfg])

/-- After the same first part the rests are compared value by value. -/
theorem after (x : Outcome α) {f g : α → Outcome β} (hrest : ∀ a, EqUnless P Q (f a) (g a)) :
    EqUnless P Q (x >>= f) (x >>= g) := (refl x).bind hrest

/-- Runs that both have a value are the same. -/
theorem eq_of_ok {x y : Outcome α} {a b : α} (h : EqUnless P Q x y) (ha : x.result = .ok a)
    (hb : y.result = .ok b) : x = y := by
  cases h with
  | left hx => exact absurd hx (not_endsIn_of_ok ha)
  | right hy => exact absurd hy (not_endsIn_of_ok hb)
  | same hsame => exact hsame

theorem listen {x y : Outcome α} (h : EqUnless P Q x y) : EqUnless P Q x.listen y.listen := by
  cases h with
  | left hx => exact .left (endsIn_listen.mpr hx)
  | right hy => exact .right (endsIn_listen.mpr hy)
  | same hsame => exact .same (congrArg Outcome.listen hsame)

section Parts
variable (hP : ∀ s fault, P fault → P (fault.under s)) (hQ : ∀ s fault, Q fault → Q (fault.under s))
include hP hQ

theorem under {x y : Outcome α} (h : EqUnless P Q x y) (s : Segment) :
    EqUnless P Q (x.under s) (y.under s) := by
  cases h with
  | left hx => exact .left (hx.under hP s)
  | right hy => exact .right (hy.under hQ s)
  | same hsame => exact .same (congrArg (Outcome.under s) hsame)

theorem elements {f g : Nat → α → Outcome β} (h : ∀ k a, EqUnless P Q (f k a) (g k a))
    (key : String) (items : List α) :
    EqUnless P Q (elements key items f) (elements key items g) := by
  have hrun : ∀ i, EqUnless P Q
      (eachFrom (fun k a => (f k a).under (.element key k)) i items)
      (eachFrom (fun k a => (g k a).under (.element key k)) i items) := by
    induction items with
    | nil => exact fun _ => refl _
    | cons a items ih =>
      intro i
      refine ((h i a).under hP hQ (.element key i)).bind fun b => ?_
      exact (ih (i + 1)).bind fun bs => refl _
  exact hrun 0

end Parts

end EqUnless

end AppConfig.Outcome

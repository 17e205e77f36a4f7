import AppConfig.Proofs.Journal.Unless

/-! # What a fault hides

* `Fault.IsAt l fault`: the fault is at a place or inside it.
* `SameIfAt l x y`: if `x` ends at the place, `y` is the same run.
* `SameIfAt.after`, `SameIfAt.first`: in a row of runs nothing is asked of what stands behind the
  place. What stands before it has to be the same.
* `SameUpTo R k`: lists that are the same before an index and related at it; `SameIfAt.elements`:
  runs over such lists are the same if the first ends there.
-/

namespace AppConfig
set_option autoImplicit false

variable {α β : Type} {s s' : Segment} {l : Location}

/-- The fault is at the place or inside it. -/
def Fault.IsAt (l : Location) (fault : Fault) : Prop :=
  ∃ rest, fault.location? = some (l ++ rest)

theorem Fault.isAt_under {fault : Fault} :
    (fault.under s).IsAt (s' :: l) ↔ s = s' ∧ fault.IsAt l := by
  simp only [IsAt, under, location?_relocate, Option.map_eq_some_iff, List.cons_append,
    List.cons.injEq]
  constructor
  · rintro ⟨rest, inner, hinner, rfl, rfl⟩
    exact ⟨rfl, rest, hinner⟩
  · rintro ⟨rfl, rest, hinner⟩
    exact ⟨rest, _, hinner, rfl, rfl⟩

/-- Lists with the same elements before an index and related elements at it. -/
inductive SameUpTo (R : α → α → Prop) : Nat → List α → List α → Prop
  | here {a a' : α} (related : R a a') (rest rest' : List α) :
    SameUpTo R 0 (a :: rest) (a' :: rest')
  | later (a : α) {k : Nat} {items items' : List α} (tail : SameUpTo R k items items') :
    SameUpTo R (k + 1) (a :: items) (a :: items')

namespace Outcome

/-- No fault that the run may end with is at the place. -/
def Avoids (l : Location) (x : Outcome α) : Prop := FaultsIn (fun fault => ¬ fault.IsAt l) x

theorem Avoids.not_endsIn {x : Outcome α} (h : Avoids l x) : ¬ EndsIn (Fault.IsAt l) x :=
  fun ⟨fault, hfault, hat⟩ => h fault hfault hat

theorem avoids_under (hs : s ≠ s') (x : Outcome α) : Avoids (s' :: l) (x.under s) :=
  .under fun _ _ hat => hs (Fault.isAt_under.mp hat).1

/-- The elements of a list are at no place that another one of them is at, nor in another list. -/
theorem avoids_eachFrom {key : String} (f : Nat → α → Outcome β) {i : Nat} (items : List α)
    (hs : ∀ k, i ≤ k → s ≠ .element key k) :
    Avoids (s :: l) (eachFrom (fun k a => (f k a).under (.element key k)) i items) := by
  induction items generalizing i with
  | nil => exact .pure []
  | cons a items ih =>
    refine .bind (avoids_under (hs i (Nat.le_refl i)).symm _) fun b _ => ?_
    refine .bind (ih fun k hk => hs k (by omega)) fun bs _ => .pure _

theorem avoids_elements {key : String} (hs : ∀ k, s ≠ .element key k) (items : List α)
    (f : Nat → α → Outcome β) : Avoids (s :: l) (elements key items f) :=
  avoids_eachFrom f items fun k _ => hs k

/-- If the first run ends at the place, the second is the same. -/
def SameIfAt (l : Location) (x y : Outcome α) : Prop := EndsIn (Fault.IsAt l) x → y = x

namespace SameIfAt

theorem refl (x : Outcome α) : SameIfAt l x x := fun _ => rfl

/-- The place is behind the first part. -/
theorem after (x : Outcome α) {f g : α → Outcome β} (h : ∀ a, SameIfAt l (f a) (g a)) :
    SameIfAt l (x >>= f) (x >>= g) := by
  intro hends
  cases hx : x.result with
  | error fault => rw [bind_of_error hx, bind_of_error hx]
  | ok a =>
    rcases endsIn_bind.mp hends with hfirst | ⟨a', ha', hrest⟩
    · exact absurd hfirst (not_endsIn_of_ok hx)
    · obtain rfl : a = a' := Except.ok.inj (hx.symm.trans ha')
      rw [bind_of_ok hx, bind_of_ok hx, h a hrest]

/-- The place is in the first part: what the second run goes on with is not reached. -/
theorem first {x y : Outcome α} {f : α → Outcome β} (h : SameIfAt l x y)
    (hrest : ∀ a, x.result = .ok a → Avoids l (f a)) (g : α → Outcome β) :
    SameIfAt l (x >>= f) (y >>= g) := by
  intro hends
  rcases endsIn_bind.mp hends with hfirst | ⟨a, ha, hlate⟩
  · obtain ⟨fault, hfault, -⟩ := id hfirst
    rw [h hfirst, bind_of_error hfault, bind_of_error hfault]
  · exact absurd hlate (hrest a ha).not_endsIn

theorem listen {x y : Outcome α} (h : SameIfAt l x y) : SameIfAt l x.listen y.listen :=
  fun hends => congrArg Outcome.listen (h (endsIn_listen.mp hends))

theorem under {x y : Outcome α} (h : SameIfAt l x y) (s : Segment) :
    SameIfAt (s :: l) (x.under s) (y.under s) := by
  intro hends
  obtain ⟨fault, hfault, hat⟩ := endsIn_under.mp hends
  exact congrArg (Outcome.under s) (h ⟨fault, hfault, (Fault.isAt_under.mp hat).2⟩)

theorem eachFrom {R : α → α → Prop} (key : String) {f : Nat → α → Outcome β} {k i : Nat}
    {items items' : List α} (hitems : SameUpTo R k items items')
    (h : ∀ a a', R a a' → SameIfAt l (f (i + k) a) (f (i + k) a')) :
    SameIfAt (.element key (i + k) :: l)
      (eachFrom (fun k a => (f k a).under (.element key k)) i items)
      (eachFrom (fun k a => (f k a).under (.element key k)) i items') := by
  induction hitems generalizing i with
  | here related rest rest' =>
    refine first ((h _ _ related).under _) (fun b _ => ?_) _
    -- What comes next has a higher index, and so its faults are elsewhere.
    refine .bind (avoids_eachFrom f rest fun k hk heq => ?_) fun _ _ => .pure _
    injection heq with _ hindex
    omega
  | later a tail ih =>
    refine after _ fun b => first ?_ (fun bs _ => .pure _) _
    have hshift : ∀ k, i + (k + 1) = i + 1 + k := by omega
    rw [hshift] at h ⊢
    exact ih h

theorem elements {R : α → α → Prop} {f : Nat → α → Outcome β} {k : Nat} {items items' : List α}
    (hitems : SameUpTo R k items items') (h : ∀ a a', R a a' → SameIfAt l (f k a) (f k a'))
    (key : String) :
    SameIfAt (.element key k :: l) (elements key items f) (elements key items' f) := by
  have hrun := eachFrom key (f := f) (i := 0) (l := l) hitems (by rwa [Nat.zero_add])
  rwa [Nat.zero_add] at hrun

end SameIfAt

end Outcome
end AppConfig

import AppConfig.Document.Recording
import AppConfig.Proofs.Journal.Lists

/-! # Runs on the diagnostics of a caller

A run with a journal of its own and a run on a state do the same if the second ends like the first,
whatever is in the state, and adds to it what the first leaves in its journal.

* `Records here x y`: so for the caller's diagnostics, with `x` seen from `here`.
* `RecordsNames here x y`: so for the caller's diagnostics and the names of an app.
* `Simulation.elements`: the rule for lists, for both of them.
-/

namespace AppConfig
set_option autoImplicit false

variable {α β : Type} {here : Location} {s : Segment}

/-! ## Runs seen from a place -/

namespace Outcome

variable {x : Outcome α} {f : α → Outcome β}

theorem within_pure (here : Location) (a : α) : (pure a : Outcome α).within here = pure a := by
  induction here with
  | nil => rfl
  | cons s here ih => exact congrArg (under s) ih

theorem within_bind (here : Location) (x : Outcome α) (f : α → Outcome β) :
    (x >>= f).within here = x.within here >>= fun a => (f a).within here := by
  induction here with
  | nil => rfl
  | cons s here ih => exact (congrArg (under s) ih).trans (under_bind s _ _)

theorem within_under (here : Location) (s : Segment) (x : Outcome α) :
    (x.under s).within here = x.within (here ++ [s]) := by
  rw [within, within, List.foldr_append]
  rfl

theorem within_result_ok (here : Location) {a : α} :
    (x.within here).result = .ok a ↔ x.result = .ok a := by
  induction here with
  | nil => exact Iff.rfl
  | cons s here ih => exact under_result_ok.trans ih

theorem within_fail (here : Location) (fault : Fault) :
    (fail fault : Outcome α).within here = fail (fault.relocate (here ++ ·)) := by
  induction here with
  | nil => cases fault <;> rfl
  | cons s here ih =>
    refine (congrArg (under s) ih).trans ?_
    cases fault <;> rfl

theorem within_note (here : Location) (d : Diagnostic) :
    (note d).within here = note { d with location := here ++ d.location } := by
  induction here with
  | nil => rfl
  | cons s here ih => exact congrArg (under s) ih

theorem within_silent (here : Location) (h : x.journal.diagnostics = []) :
    (x.within here).journal.diagnostics = [] := by
  induction here with
  | nil => exact h
  | cons s here ih =>
    have hunder : (x.within (s :: here)).journal = (x.within here).journal.under s := rfl
    rw [hunder, Journal.diagnostics_under, ih]
    rfl

/-- The run together with a registry to which its names are added. -/
def onto (registry : Registry) (x : Outcome α) : Outcome (α × Registry) :=
  ⟨x.journal, x.result.map fun a => (a, ⟨registry.identifiers ++ x.journal.registered⟩)⟩

theorem onto_bind (registry : Registry) (x : Outcome α) (f : α → Outcome β) :
    (x >>= f).onto registry = x.onto registry >>= fun p => (f p.1).onto p.2 := by
  cases h : x.result with
  | error fault =>
    have honto : (x.onto registry).result = .error fault := by
      rw [onto, h]
      rfl
    rw [bind_of_error h, bind_of_error honto]
    rfl
  | ok a =>
    have honto : (x.onto registry).result =
        .ok (a, ⟨registry.identifiers ++ x.journal.registered⟩) := by
      rw [onto, h]
      rfl
    rw [bind_of_ok h, bind_of_ok honto]
    simp only [onto, Journal.registered_append, List.append_assoc]

theorem onto_under (registry : Registry) (s : Segment) (x : Outcome α) :
    (x.under s).onto registry = (x.onto registry).under s := by
  obtain ⟨journal, result⟩ := x
  cases result with
  | error fault => rfl
  | ok a =>
    simp only [onto, under, Except.map, Journal.registered_under]
    rfl

/-- A run that registers nothing leaves the registry as it is. -/
theorem onto_of_registered_nil (registry : Registry) (h : x.journal.registered = []) :
    x.onto registry = x >>= fun a => pure (a, registry) := by
  cases hx : x.result with
  | error fault => simp [onto, bind_of_error hx, hx, Except.map]
  | ok a => simp [onto, h, bind_of_ok hx, hx, Except.map]

theorem listen_bind_eq (x : Outcome α) (f : α × Journal → Outcome β) (registry : Registry) :
    x.listen >>= f = x.onto registry >>= fun p => f (p.1, x.journal) := by
  cases h : x.result with
  | error fault => simp [listen, onto, h, bind, Outcome.bind, Except.map]
  | ok a => simp [listen, onto, h, bind, Outcome.bind, Except.map]

end Outcome

/-! ## Lists -/

/-- A relation between runs that respects how they are made. -/
structure Simulation (m : Type → Type) [Monad m]
    (R : (γ : Type) → Location → Outcome γ → m γ → Prop) : Prop where
  pure : ∀ {γ : Type} {here : Location} (c : γ), R γ here (pure c) (pure c)
  bind : ∀ {γ δ : Type} {here : Location} {x : Outcome γ} {y : m γ} {f : γ → Outcome δ}
    {g : γ → m δ}, R γ here x y → (∀ c, R δ here (f c) (g c)) → R δ here (x >>= f) (y >>= g)
  under : ∀ {γ : Type} {here : Location} {s : Segment} {x : Outcome γ} {y : m γ},
    R γ (here ++ [s]) x y → R γ here (x.under s) y

theorem Simulation.elements {m : Type → Type} [Monad m] [LawfulMonad m]
    {R : (γ : Type) → Location → Outcome γ → m γ → Prop} (hR : Simulation m R) {key : String}
    {f : Nat → α → Outcome β} {g : Location → Nat → α → m β}
    (h : ∀ i a, R β (here ++ [.element key i]) (f i a) (g (here ++ [.element key i]) i a))
    (items : List α) :
    R (List β) here (Outcome.elements key items f) (Recording.elements here key items g) := by
  -- The index of the first element moves with the induction.
  have hfrom : ∀ i, R (List β) here
      (Outcome.eachFrom (fun i a => (f i a).under (.element key i)) i items)
      ((items.zipIdx i).mapM fun p => g (here ++ [.element key p.2]) p.2 p.1) := by
    induction items with
    | nil => exact fun i => hR.pure []
    | cons a items ih =>
      intro i
      rw [List.zipIdx_cons, List.mapM_cons]
      exact hR.bind (hR.under (h i a)) fun b => hR.bind (ih (i + 1)) fun bs => hR.pure (b :: bs)
  exact hfrom 0

/-! ## The caller's diagnostics -/

/-- The second run ends like the first, seen from a place, and adds its diagnostics to those of
the caller. -/
def Records (here : Location) (x : Outcome α) (y : Recording α) : Prop :=
  ∀ ds : Diagnostics,
    y.run.run ds = ((x.within here).result, ds ++ (x.within here).journal.diagnostics)

namespace Records
open Outcome (within_pure within_bind within_under within_result_ok within_fail within_note
  within_silent)

variable {x : Outcome α} {y : Recording α} {f : α → Outcome β} {g : α → Recording β}

theorem pure (a : α) : Records here (pure a) (pure a) := by
  intro ds
  rw [within_pure]
  exact congrArg (Except.ok a, ·) (List.append_nil ds).symm

theorem bind_of_ok (hx : Records here x y)
    (hf : ∀ a, x.result = .ok a → Records here (f a) (g a)) : Records here (x >>= f) (y >>= g) := by
  intro ds
  rw [within_bind, ExceptT.run_bind, StateT.run_bind, hx ds]
  cases h : (x.within here).result with
  | error fault =>
    rw [Outcome.bind_of_error h]
    rfl
  | ok a =>
    rw [Outcome.bind_of_ok h, Journal.diagnostics_append, ← List.append_assoc]
    exact hf a ((within_result_ok here).mp h) _

theorem bind (hx : Records here x y) (hf : ∀ a, Records here (f a) (g a)) :
    Records here (x >>= f) (y >>= g) := hx.bind_of_ok fun a _ => hf a

theorem under (h : Records (here ++ [s]) x y) : Records here (x.under s) y := by
  intro ds
  rw [within_under]
  exact h ds

theorem simulation : Simulation Recording fun _ => Records := ⟨pure, bind, under⟩

theorem note {d : Diagnostic} :
    Records here (.note d) (Recording.note { d with location := here ++ d.location }) := by
  intro ds
  rw [within_note]
  rfl

theorem note_root {d : Diagnostic} (h : d.location = .root) :
    Records here (.note d) (Recording.note { d with location := here }) := by
  have hnote : Records here (.note d)
      (Recording.note { d with location := here ++ d.location }) := note
  rwa [h, Location.root, List.append_nil] at hnote

theorem fail (fault : Fault) :
    Records here (.fail fault : Outcome α) (throw (fault.relocate (here ++ ·))) := by
  intro ds
  rw [within_fail]
  exact congrArg (Except.error _, ·) (List.append_nil ds).symm

theorem ofExcept {r : Except Fault α} (hr : (x.within here).result = r)
    (h : x.journal.diagnostics = []) : Records here x (Recording.ofExcept r) := by
  intro ds
  rw [within_silent here h, hr, List.append_nil]
  rfl

/-- What is read of one object. -/
theorem fieldAt (h : x.journal = []) : Records here x (Recording.fieldAt here x) :=
  ofExcept rfl (by rw [h]; rfl)

/-- The want of a home directory is the fault of no place, so it is the same from everywhere. -/
theorem requireHome (p : Path) (home : Option Path) :
    Records here (.ofExcept (p.requireHome home)) (Recording.ofExcept (p.requireHome home)) := by
  unfold Path.requireHome
  split
  · exact fail (.noHome p)
  · exact pure ()

/-- What is logged is not recorded. -/
theorem log_bind {e : Event} {f : Unit → Outcome α} (h : Records here (f ()) y) :
    Records here (.log e >>= f) y := by
  have hlog : Records here (.log e) (Pure.pure () : Recording Unit) :=
    ofExcept ((within_result_ok here).mpr rfl) rfl
  have hbind := hlog.bind (g := fun _ => y) fun _ => h
  rwa [pure_bind] at hbind

end Records

/-! ## The names of an app -/

/-- The second run ends like the first, seen from a place, and adds its diagnostics to those of
the caller and its names to those of the app. -/
def RecordsNames (here : Location) (x : Outcome α) (y : Registering α) : Prop :=
  ∀ registry, Records here (x.onto registry) (y.run registry)

namespace RecordsNames
open Outcome (onto_bind onto_under onto_of_registered_nil)

variable {x : Outcome α} {y : Registering α} {f : α → Outcome β} {g : α → Registering β}

theorem bind (hx : RecordsNames here x y) (hf : ∀ a, RecordsNames here (f a) (g a)) :
    RecordsNames here (x >>= f) (y >>= g) := by
  intro registry
  rw [onto_bind, StateT.run_bind]
  exact (hx registry).bind fun p => hf p.1 p.2

theorem lift {y : Recording α} (h : Records here x y) (hnames : x.journal.registered = []) :
    RecordsNames here x (liftM y) := by
  intro registry
  rw [onto_of_registered_nil registry hnames]
  exact h.bind fun a => .pure (a, registry)

theorem pure (a : α) : RecordsNames here (pure a) (pure a) := by
  intro registry
  rw [onto_of_registered_nil registry rfl]
  exact .pure (a, registry)

theorem under (h : RecordsNames (here ++ [s]) x y) : RecordsNames here (x.under s) y := by
  intro registry
  rw [onto_under]
  exact (h registry).under

/-- What is read of one object. -/
theorem fieldAt (h : x.journal = []) :
    RecordsNames here x (liftM (Recording.fieldAt here x) : Registering α) :=
  lift (.fieldAt h) (by rw [h]; rfl)

theorem simulation : Simulation Registering fun _ => RecordsNames := ⟨pure, bind, under⟩

/-- A run with a registry of its own, which is looked at when the run has ended. -/
theorem listen_bind {f : α × Journal → Outcome β} {g : α × Registry → Recording β}
    (hx : RecordsNames here x y)
    (hf : ∀ a journal, Records here (f (a, journal)) (g (a, ⟨journal.registered⟩))) :
    Records here (x.listen >>= f) (y.run .empty >>= g) := by
  -- What follows looks at the journal of a run that has a result, and that run is known here.
  rw [Outcome.listen_bind_eq x f .empty]
  refine (hx .empty).bind_of_ok fun p hp => ?_
  cases h : x.result with
  | error fault =>
    rw [Outcome.onto, h] at hp
    cases hp
  | ok a =>
    rw [Outcome.onto, h] at hp
    obtain rfl := Except.ok.inj hp
    exact hf a x.journal

end RecordsNames
end AppConfig

import AppConfig.Diagnostic
import AppConfig.Event
import AppConfig.Fault

/-! # Journals and outcomes

* `Entry`: a diagnostic, or an event for the log; `Journal`: the entries of a run in order.
* `Outcome`: the journal of a run together with its value, or the fault that ended it.
* `Outcome.note`, `.log`, `.fail`: runs of one entry, or of none.
* `Outcome.under`: the run of a part, seen from the whole.
* `Outcome.listen`: a run whose value comes with its journal.
* `Outcome.each`: a run for each item of a list, until the first fault.

A journal only grows: the journal of two runs in a row is the first followed by the second, and a
fault keeps the entries made before it.
-/

namespace AppConfig
set_option autoImplicit false

/-- What a run leaves on its way. -/
inductive Entry where
  | noted (diagnostic : Diagnostic)
  | logged (event : Event)

/-- The entries of a run, oldest first. -/
abbrev Journal := List Entry

def Entry.under (s : Segment) : Entry → Entry
  | noted d => noted (d.under s)
  | logged e => logged (e.under s)

namespace Journal

def diagnostics (j : Journal) : Diagnostics :=
  j.filterMap fun
    | .noted d => some d
    | .logged _ => none

def events (j : Journal) : List Event :=
  j.filterMap fun
    | .noted _ => none
    | .logged e => some e

/-- The names registered in the run, in order. -/
def registered (j : Journal) : List String :=
  j.events.filterMap fun
    | .nameRegistered name _ => some name
    | _ => none

def under (s : Segment) (j : Journal) : Journal := j.map (Entry.under s)

@[simp] theorem diagnostics_append (a b : Journal) :
    diagnostics (a ++ b) = diagnostics a ++ diagnostics b := by
  simp [diagnostics]

@[simp] theorem events_append (a b : Journal) : events (a ++ b) = events a ++ events b := by
  simp [events]

@[simp] theorem registered_append (a b : Journal) :
    registered (a ++ b) = registered a ++ registered b := by
  simp [registered]

end Journal

/-- The journal of a run, and its value or the fault that ended it. -/
structure Outcome (α : Type) where
  journal : Journal
  result : Except Fault α

namespace Outcome

variable {α β : Type}

/-- A run and then another that uses its value. -/
protected def bind (x : Outcome α) (f : α → Outcome β) : Outcome β :=
  match x.result with
  | .error fault => ⟨x.journal, .error fault⟩
  | .ok a =>
    let y := f a
    ⟨x.journal ++ y.journal, y.result⟩

instance : Monad Outcome where
  pure a := ⟨[], .ok a⟩
  bind := Outcome.bind

/-- A run that only records a diagnostic. -/
def note (d : Diagnostic) : Outcome Unit := ⟨[.noted d], .ok ()⟩

/-- A run that only logs an event. -/
def log (e : Event) : Outcome Unit := ⟨[.logged e], .ok ()⟩

/-- A run that ends at once. -/
def fail (fault : Fault) : Outcome α := ⟨[], .error fault⟩

/-- A result as a run without entries. -/
def ofExcept (result : Except Fault α) : Outcome α := ⟨[], result⟩

/-- The run of a part, seen from the whole. -/
def under (s : Segment) (x : Outcome α) : Outcome α :=
  ⟨x.journal.under s, x.result.mapError (Fault.under s)⟩

/-- The run of a part some steps inside the whole. -/
def within (l : Location) (x : Outcome α) : Outcome α :=
  l.foldr under x

/-- A run whose value comes with its journal. -/
def listen (x : Outcome α) : Outcome (α × Journal) :=
  ⟨x.journal, x.result.map fun a => (a, x.journal)⟩

/-- A run for each item from the index on, until the first fault. -/
def eachFrom (f : Nat → α → Outcome β) : Nat → List α → Outcome (List β)
  | _, [] => pure []
  | i, a :: rest => do
    let b ← f i a
    let bs ← eachFrom f (i + 1) rest
    return b :: bs

/-- A run for each item of a list with its index, until the first fault. -/
def each (items : List α) (f : Nat → α → Outcome β) : Outcome (List β) :=
  eachFrom f 0 items

/-! ## Runs in a row -/

@[simp] theorem pure_journal (a : α) : (pure a : Outcome α).journal = [] := rfl

@[simp] theorem pure_result (a : α) : (pure a : Outcome α).result = .ok a := rfl

theorem bind_of_ok {x : Outcome α} {f : α → Outcome β} {a : α} (h : x.result = .ok a) :
    x >>= f = ⟨x.journal ++ (f a).journal, (f a).result⟩ := by
  simp [bind, Outcome.bind, h]

theorem bind_of_error {x : Outcome α} {f : α → Outcome β} {fault : Fault}
    (h : x.result = .error fault) : x >>= f = ⟨x.journal, .error fault⟩ := by
  simp [bind, Outcome.bind, h]

theorem bind_journal_ok {x : Outcome α} {f : α → Outcome β} {a : α} (h : x.result = .ok a) :
    (x >>= f).journal = x.journal ++ (f a).journal := by
  rw [bind_of_ok h]

theorem bind_journal_error {x : Outcome α} {f : α → Outcome β} {fault : Fault}
    (h : x.result = .error fault) : (x >>= f).journal = x.journal := by
  rw [bind_of_error h]

theorem bind_result_ok {x : Outcome α} {f : α → Outcome β} {b : β} :
    (x >>= f).result = .ok b ↔ ∃ a, x.result = .ok a ∧ (f a).result = .ok b := by
  cases h : x.result with
  | error fault => simp [bind_of_error h]
  | ok a => simp [bind_of_ok h]

theorem bind_result_error {x : Outcome α} {f : α → Outcome β} {fault : Fault} :
    (x >>= f).result = .error fault ↔
      x.result = .error fault ∨ ∃ a, x.result = .ok a ∧ (f a).result = .error fault := by
  cases h : x.result with
  | error earlier => simp [bind_of_error h]
  | ok a => simp [bind_of_ok h]

protected theorem map_id (x : Outcome α) : id <$> x = x := by
  show (x >>= fun a => pure (id a)) = x
  cases h : x.result with
  | error fault => rw [bind_of_error h, ← h]
  | ok a => simp [bind_of_ok h, ← h]

protected theorem pure_bind (a : α) (f : α → Outcome β) : pure a >>= f = f a := by
  rw [bind_of_ok (pure_result a)]
  rfl

protected theorem bind_assoc {γ : Type} (x : Outcome α) (f : α → Outcome β) (g : β → Outcome γ) :
    x >>= f >>= g = x >>= fun a => f a >>= g := by
  cases h : x.result with
  | error fault =>
    rw [bind_of_error h, bind_of_error h]
    rfl
  | ok a =>
    rw [bind_of_ok h, bind_of_ok h]
    cases hf : (f a).result with
    | error fault => simp [bind, Outcome.bind, hf]
    | ok b => simp [bind, Outcome.bind, hf]

instance : LawfulMonad Outcome :=
  LawfulMonad.mk' Outcome Outcome.map_id Outcome.pure_bind Outcome.bind_assoc

/-! ## Runs of parts -/

/-- A run of two parts in a row, seen from the whole, is the run of both seen from there. -/
theorem under_bind (s : Segment) (x : Outcome α) (f : α → Outcome β) :
    (x >>= f).under s = x.under s >>= fun a => (f a).under s := by
  cases h : x.result with
  | error fault =>
    have hs : (x.under s).result = .error (fault.under s) :=
      congrArg (Except.mapError (Fault.under s)) h
    rw [bind_of_error h, bind_of_error hs]
    rfl
  | ok a =>
    have hs : (x.under s).result = .ok a := congrArg (Except.mapError (Fault.under s)) h
    rw [bind_of_ok h, bind_of_ok hs]
    simp [under, Journal.under]

end Outcome
end AppConfig

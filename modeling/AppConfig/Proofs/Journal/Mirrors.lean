import AppConfig.Proofs.Journal.Lists

/-! # Runs side by side

* `Mirrors quiet S x x'`: both runs end with the same fault, or with values that `S` relates, and
  the second leaves what the first leaves; if `quiet`, the warnings about defaults are left out.
* `Mirrors.bind`, `Mirrors.under`, `Mirrors.listen`, `Mirrors.elements`: runs that are made alike of
  runs side by side stand side by side.
* `Mirrors.eq`, `Mirrors.diagnostics_eq`: what that says of two whole runs.
-/

namespace AppConfig
set_option autoImplicit false

variable {α α' β β' : Type} {quiet : Bool}

def Entry.stays (quiet : Bool) : Entry → Bool
  | .noted d => !(quiet && d.code = .fieldDefaulted)
  | .logged _ => true

namespace Journal

def quieted (quiet : Bool) (j : Journal) : Journal := j.filter (Entry.stays quiet)

theorem quieted_append (a b : Journal) :
    quieted quiet (a ++ b) = quieted quiet a ++ quieted quiet b :=
  List.filter_append _ _

theorem quieted_false (j : Journal) : quieted false j = j := by
  refine List.filter_eq_self.mpr fun entry _ => ?_
  cases entry <;> rfl

theorem quieted_under (s : Segment) (j : Journal) :
    quieted quiet (j.under s) = (quieted quiet j).under s := by
  have hstays : Entry.stays quiet ∘ Entry.under s = Entry.stays quiet := by
    funext entry
    cases entry <;> rfl
  rw [quieted, under, List.filter_map, hstays]
  rfl

theorem registered_quieted (j : Journal) : registered (quieted quiet j) = registered j := by
  induction j with
  | nil => rfl
  | cons entry rest ih =>
    have hone : registered (quieted quiet [entry]) = registered [entry] := by
      cases entry with
      | noted d =>
        by_cases h : Entry.stays quiet (.noted d) <;> simp [quieted, h, registered, events]
      | logged e => rfl
    rw [← List.singleton_append, quieted_append, registered_append, registered_append, hone, ih]

theorem diagnostics_quieted (j : Journal) :
    diagnostics (quieted true j) = (diagnostics j).filter fun d => d.code ≠ .fieldDefaulted := by
  induction j with
  | nil => rfl
  | cons entry rest ih =>
    have hone : diagnostics (quieted true [entry]) =
        (diagnostics [entry]).filter fun d => d.code ≠ .fieldDefaulted := by
      cases entry with
      | noted d =>
        by_cases h : d.code = .fieldDefaulted <;> simp [quieted, Entry.stays, h, diagnostics]
      | logged e => rfl
    rw [← List.singleton_append, quieted_append, diagnostics_append, diagnostics_append, hone, ih,
      List.filter_append]

end Journal

namespace Outcome

/-- Both runs end with the same fault, or with related values. -/
inductive EndAlike (S : α → α' → Prop) (x : Outcome α) (x' : Outcome α') : Prop
  | ok {a : α} {a' : α'} (first : x.result = .ok a) (second : x'.result = .ok a') (related : S a a')
  | error {fault : Fault} (first : x.result = .error fault) (second : x'.result = .error fault)

/-- The second run ends like the first and leaves the same, warnings about defaults left out if
`quiet`. -/
structure Mirrors (quiet : Bool) (S : α → α' → Prop) (x : Outcome α) (x' : Outcome α') : Prop where
  ends : EndAlike S x x'
  journal : x'.journal = x.journal.quieted quiet

namespace Mirrors

variable {S : α → α' → Prop} {T : β → β' → Prop} {x : Outcome α} {x' : Outcome α'}

theorem pure {a : α} {a' : α'} (h : S a a') : Mirrors quiet S (pure a) (pure a') :=
  ⟨.ok rfl rfl h, rfl⟩

theorem fail (fault : Fault) : Mirrors quiet S (fail fault) (fail fault) := ⟨.error rfl rfl, rfl⟩

/-- A run beside itself, if all that it leaves stays. -/
theorem of_stays {x : Outcome α} (h : x.journal.quieted quiet = x.journal) :
    Mirrors quiet Eq x x := by
  refine ⟨?_, h.symm⟩
  cases hx : x.result with
  | error fault => exact .error hx hx
  | ok a => exact .ok hx hx rfl

theorem of_silent {x : Outcome α} (h : x.journal = []) : Mirrors quiet Eq x x :=
  of_stays (by rw [h]; rfl)

theorem log (e : Event) : Mirrors quiet Eq (log e) (log e) := of_stays rfl

theorem note {d : Diagnostic} (h : d.code ≠ .fieldDefaulted) :
    Mirrors quiet Eq (note d) (note d) := by
  apply of_stays
  simp [Journal.quieted, Outcome.note, Entry.stays, h]

theorem bind {f : α → Outcome β} {f' : α' → Outcome β'} (hx : Mirrors quiet S x x')
    (hf : ∀ a a', S a a' → Mirrors quiet T (f a) (f' a')) :
    Mirrors quiet T (x >>= f) (x' >>= f') := by
  cases hx.ends with
  | ok h h' hrelated =>
    have hrest := hf _ _ hrelated
    rw [bind_of_ok h, bind_of_ok h']
    refine ⟨?_, ?_⟩
    · cases hrest.ends with
      | ok hb hb' hT => exact .ok hb hb' hT
      | error hb hb' => exact .error hb hb'
    · rw [hx.journal, hrest.journal, Journal.quieted_append]
  | error h h' =>
    rw [bind_of_error h, bind_of_error h']
    exact ⟨.error rfl rfl, hx.journal⟩

/-- After the same value the rests may be compared value by value. -/
theorem bind_eq {x x' : Outcome α} {f : α → Outcome β} {f' : α → Outcome β'}
    (hx : Mirrors quiet Eq x x') (hf : ∀ a, Mirrors quiet T (f a) (f' a)) :
    Mirrors quiet T (x >>= f) (x' >>= f') := by
  refine hx.bind fun a a' h => ?_
  rw [← h]
  exact hf a

theorem under (s : Segment) (hx : Mirrors quiet S x x') :
    Mirrors quiet S (x.under s) (x'.under s) := by
  refine ⟨?_, ?_⟩
  · cases hx.ends with
    | ok h h' hrelated => exact .ok (under_of_ok h) (under_of_ok h') hrelated
    | error h h' => exact .error (under_of_error h) (under_of_error h')
  · rw [under_journal, under_journal, hx.journal, Journal.quieted_under]

/-- The names that two runs side by side register are the same. -/
theorem listen {x x' : Outcome α} (hx : Mirrors quiet Eq x x') :
    Mirrors quiet (fun p p' => p.1 = p'.1 ∧ p.2.registered = p'.2.registered)
      x.listen x'.listen := by
  refine ⟨?_, hx.journal⟩
  cases hx.ends with
  | ok h h' hrelated =>
    refine .ok (listen_result_ok.mpr ⟨h, rfl⟩) (listen_result_ok.mpr ⟨h', rfl⟩) ⟨hrelated, ?_⟩
    rw [hx.journal, Journal.registered_quieted]
  | error h h' => exact .error (listen_result_error.mpr h) (listen_result_error.mpr h')

theorem eachFrom {R : Nat → α → α' → Prop} {S : Nat → β → β' → Prop} {f : Nat → α → Outcome β}
    {f' : Nat → α' → Outcome β'} {items : List α} {items' : List α'} {i : Nat}
    (h : Placewise (fun k => R (i + k)) items items')
    (hf : ∀ k a a', R k a a' → Mirrors quiet (S k) (f k a) (f' k a')) :
    Mirrors quiet (Placewise fun k => S (i + k)) (eachFrom f i items) (eachFrom f' i items') := by
  induction items generalizing items' i with
  | nil =>
    obtain rfl : items' = [] := List.length_eq_zero_iff.mp h.length_eq.symm
    exact pure Placewise.nil
  | cons a items ih =>
    obtain ⟨a', rest, rfl, ha, hrest⟩ := Placewise.cons_iff.mp h
    have hshift : ∀ k, i + 1 + k = i + (k + 1) := fun k => by omega
    have hlater : Placewise (fun k => R (i + 1 + k)) items rest := by
      simpa only [hshift] using hrest
    refine (hf i a a' ha).bind fun b b' hb => (ih hlater).bind fun bs bs' hbs => pure ?_
    refine Placewise.cons_iff.mpr ⟨b', bs', rfl, hb, ?_⟩
    simpa only [hshift] using hbs

theorem elements {R : Nat → α → α' → Prop} {S : Nat → β → β' → Prop} {key : String}
    {f : Nat → α → Outcome β} {f' : Nat → α' → Outcome β'} {items : List α} {items' : List α'}
    (h : Placewise R items items')
    (hf : ∀ k a a', R k a a' → Mirrors quiet (S k) (f k a) (f' k a')) :
    Mirrors quiet (Placewise S) (elements key items f) (elements key items' f') := by
  have hplaced : Placewise (fun k => R (0 + k)) items items' := by
    simp only [Nat.zero_add]
    exact h
  have hrun := eachFrom hplaced fun k a a' ha => (hf k a a' ha).under (.element key k)
  simp only [Nat.zero_add] at hrun
  exact hrun

theorem elements_eq {R : Nat → α → α' → Prop} {key : String} {f : Nat → α → Outcome β}
    {f' : Nat → α' → Outcome β} {items : List α} {items' : List α'} (h : Placewise R items items')
    (hf : ∀ k a a', R k a a' → Mirrors quiet Eq (f k a) (f' k a')) :
    Mirrors quiet Eq (Outcome.elements key items f) (Outcome.elements key items' f') := by
  have hrun : Mirrors quiet (Placewise fun _ => Eq) (Outcome.elements key items f)
      (Outcome.elements key items' f') := elements h hf
  refine ⟨?_, hrun.journal⟩
  cases hrun.ends with
  | ok h h' hparts => exact .ok h h' hparts.eq
  | error h h' => exact .error h h'

/-! ## Whole runs -/

theorem result_eq {x x' : Outcome α} (hx : Mirrors quiet Eq x x') : x'.result = x.result := by
  cases hx.ends with
  | ok h h' hrelated => rw [h, h', hrelated]
  | error h h' => rw [h, h']

theorem eq {x x' : Outcome α} (hx : Mirrors false Eq x x') : x' = x := by
  have hjournal : x'.journal = x.journal := hx.journal.trans (Journal.quieted_false _)
  have hresult := hx.result_eq
  cases x
  cases x'
  simp_all

theorem diagnostics_eq {x x' : Outcome α} (hx : Mirrors true Eq x x') :
    x'.journal.diagnostics = x.journal.diagnostics.filter fun d => d.code ≠ .fieldDefaulted := by
  rw [hx.journal, Journal.diagnostics_quieted]

end Mirrors
end Outcome
end AppConfig

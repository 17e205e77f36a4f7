import AppConfig.Proofs.Journal.Notes
import AppConfig.Proofs.Journal.Shown
import AppConfig.Proofs.Session.Records

/-! # A part of a run that decides the whole

* `Passes notes x`: the run ends with a value and leaves the diagnostics.
* `Leads earlier x y`: the run `x` comes to its part `y` with these diagnostics. If the part fails,
  the whole fails with the same fault, and leaves what the part leaves behind the earlier ones.
* `Leads.first`, `.after_shows`, `.under`, `.elements`: one rule for each way to make runs of runs.
* `Fault.within`: the fault of a part some steps inside the whole.
-/

namespace AppConfig
set_option autoImplicit false

/-- The fault of a part some steps inside the whole. -/
def Fault.within (l : Location) (fault : Fault) : Fault := fault.relocate (l ++ ·)

theorem Fault.within_nil (fault : Fault) : fault.within [] = fault := by cases fault <;> rfl

theorem Fault.within_append (l l' : Location) (fault : Fault) :
    fault.within (l ++ l') = (fault.within l').within l := by
  cases fault <;> simp [within, relocate]

namespace Outcome

variable {α β γ : Type} {a b notes : Diagnostics}

/-! ## Runs that pass -/

/-- The run ends with a value and leaves the diagnostics. -/
def Passes (notes : Diagnostics) (x : Outcome α) : Prop := ∃ v, Shows (.ok v) notes x

theorem Leaves.shows {x : Outcome α} {v : α} (hx : Leaves notes x) (hv : x.result = .ok v) :
    Shows (.ok v) notes x := ⟨hv, hx.complete v hv⟩

theorem Leaves.passes {x : Outcome α} (hx : Leaves notes x) (hv : ∃ v, x.result = .ok v) :
    Passes notes x := hv.imp fun _ => hx.shows

/-- Whether its journal comes with it does not matter to what a run ends with and leaves. -/
theorem map_unit_listen (x : Outcome α) :
    (fun _ => ()) <$> x.listen = (fun _ => ()) <$> x := by
  obtain ⟨journal, fault | v⟩ := x
  · rfl
  · rfl

/-! ## Runs seen from further out -/

theorem Shows.under {r : Except Fault α} {x : Outcome α} (s : Segment) (hx : Shows r notes x) :
    Shows (r.mapError (Fault.under s)) (notes.map (Diagnostic.under s)) (x.under s) := by
  refine ⟨congrArg (Except.mapError (Fault.under s)) hx.result, ?_⟩
  rw [under_journal, Journal.diagnostics_under, hx.diagnostics]

theorem Shows.within_error {fault : Fault} {x : Outcome α} (l : Location)
    (hx : Shows (.error fault) notes x) :
    Shows (.error (fault.within l)) (notes.map (Diagnostic.within l)) (x.within l) := by
  induction l with
  | nil =>
    have hid : Diagnostic.within [] = id := rfl
    rw [Fault.within_nil, hid, List.map_id]
    exact hx
  | cons s l ih =>
    have hunder := ih.under s
    have hfault : (.error (fault.within l) : Except Fault α).mapError (Fault.under s) =
        .error (fault.within (s :: l)) :=
      congrArg Except.error (fault.within_append [s] l).symm
    have hnotes : Diagnostic.under s ∘ Diagnostic.within l = Diagnostic.within (s :: l) := rfl
    rwa [List.map_map, hnotes, hfault] at hunder

/-! ## Leading to a part -/

/-- The run comes to a part of it with these diagnostics, and fails with the part. -/
def Leads (earlier : Diagnostics) (x : Outcome α) (y : Outcome β) : Prop :=
  ∀ fault notes, Shows (.error fault) notes y → Shows (.error fault) (earlier ++ notes) x

namespace Leads

variable {x : Outcome α} {y : Outcome β} {z : Outcome γ}

theorem refl (x : Outcome α) : Leads [] x x := fun _ _ h => h

theorem trans (h : Leads a x y) (h' : Leads b y z) : Leads (a ++ b) x z := by
  intro fault notes hz
  rw [List.append_assoc]
  exact h fault _ (h' fault notes hz)

theorem first (x : Outcome α) (f : α → Outcome β) : Leads [] (x >>= f) x :=
  fun _ _ h => h.stop f

theorem after_shows {f : α → Outcome β} {v : α} (hx : Shows (.ok v) a x) (h : Leads b (f v) z) :
    Leads (a ++ b) (x >>= f) z := by
  intro fault notes hz
  rw [List.append_assoc]
  exact hx.bind (h fault notes hz)

theorem of_same (h : ∀ fault, y.result = .error fault → x.result = .error fault)
    (hnotes : x.journal.diagnostics = y.journal.diagnostics) : Leads [] x y :=
  fun fault _ hy => ⟨h fault hy.result, hnotes.trans hy.diagnostics⟩

theorem map (f : α → β) (x : Outcome α) : Leads [] (f <$> x) x :=
  of_same (fun _ => map_result_error.mpr) (congrArg _ (map_journal f x))

theorem of_map (f : α → β) (x : Outcome α) : Leads [] x (f <$> x) :=
  of_same (fun _ => map_result_error.mp) (congrArg _ (map_journal f x).symm)

theorem under (s : Segment) (h : Leads a x y) :
    Leads (a.map (Diagnostic.under s)) (x.under s) (y.under s) := by
  intro fault notes hy
  obtain ⟨inner, hinner, rfl⟩ := under_result_error.mp hy.result
  have hx := (h inner _ ⟨hinner, rfl⟩).under s
  rw [List.map_append] at hx
  have hnotes : y.journal.diagnostics.map (Diagnostic.under s) = notes := by
    rw [← Journal.diagnostics_under, ← hy.diagnostics, under_journal]
  rwa [hnotes] at hx

theorem within (l : Location) (h : Leads a x y) :
    Leads (a.map (Diagnostic.within l)) (x.within l) (y.within l) := by
  induction l with
  | nil =>
    have hid : Diagnostic.within [] = id := rfl
    rwa [hid, List.map_id]
  | cons s l ih =>
    have hunder := ih.under s
    have hnotes : Diagnostic.under s ∘ Diagnostic.within l = Diagnostic.within (s :: l) := rfl
    rwa [List.map_map, hnotes] at hunder

/-- The elements before the one that fails pass. -/
theorem elements {key : String} {f : Nat → α → Outcome β} {g : Nat → α → Diagnostics}
    {items : List α} {k : Nat} {v : α} (hv : items[k]? = some v)
    (hbefore : ∀ i w, i < k → items[i]? = some w → Passes (g i w) (f i w)) :
    Leads ((items.take k).mapIdx fun i w => (g i w).map (Diagnostic.under (.element key i))).flatten
      (elements key items f) ((f k v).under (.element key k)) := by
  intro fault notes hfault
  obtain ⟨inner, hinner, rfl⟩ := under_result_error.mp hfault.result
  have hok : ∀ i w, i < k → items[i]? = some w → ∃ b, (f i w).result = .ok b := by
    intro i w hi hw
    obtain ⟨b, hb⟩ := hbefore i w hi hw
    exact ⟨b, hb.result⟩
  refine ⟨elements_result_error.mpr ⟨k, v, inner, hv, hinner, rfl, hok⟩, ?_⟩
  have hk : k < items.length := (List.getElem?_eq_some_iff.mp hv).1
  have hlength : (items.take k).length = k := List.length_take_of_le (Nat.le_of_lt hk)
  have htake : items.take (k + 1) = items.take k ++ [v] := by
    rw [List.take_add_one, hv]
    rfl
  have hfirst : ((items.take k).mapIdx fun i w =>
      ((f i w).journal.under (.element key i)).diagnostics) =
        (items.take k).mapIdx fun i w => (g i w).map (Diagnostic.under (.element key i)) := by
    rw [List.mapIdx_eq_mapIdx_iff]
    intro i hi
    have hw : items[i]? = some items[i] := List.getElem?_eq_getElem (by omega)
    obtain ⟨b, hb⟩ := hbefore i _ (by omega) hw
    rw [List.getElem_take, Journal.diagnostics_under, hb.diagnostics]
  rw [elements_journal_error hv hinner hok, Journal.diagnostics_mapIdx, htake, List.mapIdx_append,
    List.flatten_append, hfirst, hlength, List.mapIdx_singleton, List.flatten_singleton,
    Nat.zero_add, ← hfault.diagnostics, under_journal]

theorem silent_elements {key : String} {f : Nat → α → Outcome β} {items : List α} {k : Nat} {v : α}
    (hv : items[k]? = some v)
    (hbefore : ∀ i w, i < k → items[i]? = some w → Passes [] (f i w)) :
    Leads [] (Outcome.elements key items f) ((f k v).under (.element key k)) := by
  have hnil : ((items.take k).mapIdx fun i _ =>
      ([] : Diagnostics).map (Diagnostic.under (.element key i))).flatten = [] := by
    simp
  have hleads : Leads ((items.take k).mapIdx fun i _ =>
      ([] : Diagnostics).map (Diagnostic.under (.element key i))).flatten
        (Outcome.elements key items f) ((f k v).under (.element key k)) := elements hv hbefore
  rwa [hnil] at hleads

end Leads
end Outcome
end AppConfig

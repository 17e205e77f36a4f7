import AppConfig.Naming.Registry
import Mathlib.Data.List.Sort
import Mathlib.Data.String.Basic

/-! # Repeated names

* `mem_repeated`: the repeated names are those that occur twice.
* `eq_repeated_iff`: they are listed in strictly ascending order, whatever the order of the names.
* `Registry.check_eq_ok`: a registry passes exactly when no name occurs twice in it.
* `repeated_of_apart`: distinct names beside others, with none in common, repeat nothing.
* `two_le_count_flatMap`: a name that no part has twice is repeated exactly when two parts have it.
-/

namespace AppConfig
set_option autoImplicit false

theorem insertName_ne_nil (name : String) (names : List String) : insertName name names ≠ [] := by
  cases names with
  | nil => simp [insertName]
  | cons n rest =>
    unfold insertName
    split
    · simp
    · split <;> simp

theorem ascending_eq_nil {names : List String} : ascending names = [] ↔ names = [] := by
  cases names with
  | nil => simp [ascending]
  | cons n rest => simp [ascending, insertName_ne_nil]

theorem repeated_eq_nil {names : List String} : repeated names = [] ↔ names.Nodup := by
  rw [repeated, ascending_eq_nil, List.filter_eq_nil_iff, List.nodup_iff_count]
  constructor
  · intro h n
    by_cases hn : n ∈ names
    · have hfew := h n hn
      simp only [decide_eq_true_eq] at hfew
      omega
    · rw [List.count_eq_zero_of_not_mem hn]
      omega
  · intro h n _
    have hfew := h n
    simp only [decide_eq_true_eq]
    omega

theorem mem_insertName {name n : String} {names : List String} :
    n ∈ insertName name names ↔ n = name ∨ n ∈ names := by
  induction names with
  | nil => simp [insertName]
  | cons m rest ih =>
    rw [insertName]
    split
    · exact List.mem_cons
    · split
      · next heq =>
        rw [heq, List.mem_cons]
        exact (or_iff_right_of_imp .inl).symm
      · rw [List.mem_cons, ih, List.mem_cons, or_left_comm]

theorem mem_ascending {n : String} {names : List String} : n ∈ ascending names ↔ n ∈ names := by
  induction names with
  | nil => exact Iff.rfl
  | cons name rest ih =>
    have hcons : ascending (name :: rest) = insertName name (ascending rest) := rfl
    rw [hcons, mem_insertName, ih, List.mem_cons]

theorem mem_repeated {n : String} {names : List String} :
    n ∈ repeated names ↔ 2 ≤ names.count n := by
  rw [repeated, mem_ascending, List.mem_filter, decide_eq_true_eq]
  refine and_iff_right_of_imp fun h => ?_
  exact List.count_pos_iff.mp (by omega)

/-! ## Ascending order -/

theorem pairwise_insertName (name : String) {names : List String} (h : names.Pairwise (· < ·)) :
    (insertName name names).Pairwise (· < ·) := by
  induction names with
  | nil => exact List.pairwise_singleton _ _
  | cons n rest ih =>
    obtain ⟨hn, hrest⟩ := List.pairwise_cons.mp h
    rw [insertName]
    split
    · next hlt =>
      refine List.pairwise_cons.mpr ⟨fun m hm => ?_, h⟩
      rcases List.mem_cons.mp hm with rfl | hm
      · exact hlt
      · exact lt_trans hlt (hn m hm)
    · split
      · exact h
      · next hlt hne =>
        refine List.pairwise_cons.mpr ⟨fun m hm => ?_, ih hrest⟩
        rcases mem_insertName.mp hm with rfl | hm
        · exact lt_of_le_of_ne (not_lt.mp hlt) (fun heq => hne heq.symm)
        · exact hn m hm

theorem pairwise_ascending (names : List String) : (ascending names).Pairwise (· < ·) := by
  induction names with
  | nil => exact .nil
  | cons name rest ih => exact pairwise_insertName name ih

theorem eq_repeated_iff {duplicates names : List String} : duplicates = repeated names ↔
    duplicates.Pairwise (· < ·) ∧ ∀ n, n ∈ duplicates ↔ 2 ≤ names.count n := by
  constructor
  · rintro rfl
    exact ⟨pairwise_ascending _, fun n => mem_repeated⟩
  · rintro ⟨hascending, hmem⟩
    refine hascending.eq_of_mem_iff (pairwise_ascending _) fun n => ?_
    exact (hmem n).trans mem_repeated.symm

theorem repeated_of_apart {before names after : List String} (hnames : names.Nodup)
    (hapart : names.Disjoint (before ++ after)) :
    repeated (before ++ names ++ after) = repeated (before ++ after) := by
  refine (eq_repeated_iff.mpr ⟨pairwise_ascending _, fun n => ?_⟩).symm
  rw [← repeated, mem_repeated, List.count_append, List.count_append, List.count_append]
  by_cases hn : n ∈ names
  · have hone := List.nodup_iff_count.mp hnames n
    have hothers := List.count_eq_zero_of_not_mem fun h => hapart hn h
    rw [List.count_append] at hothers
    omega
  · rw [List.count_eq_zero_of_not_mem hn, Nat.add_zero]

/-! ## Checks -/

theorem Registry.check_eq_ok {r : Registry} {location : Location} :
    r.check location = .ok () ↔ r.identifiers.Nodup := by
  rw [← repeated_eq_nil, check, duplicates]
  cases repeated r.identifiers with
  | nil => simp
  | cons n rest => simp

theorem Registry.check_eq_error {r : Registry} {location : Location} {fault : Fault} :
    r.check location = .error fault ↔
      ¬ r.identifiers.Nodup ∧ fault = .duplicateIdentifiers location r.duplicates := by
  rw [← repeated_eq_nil, check, duplicates]
  cases repeated r.identifiers with
  | nil => simp
  | cons n rest => simp [eq_comm]

/-! ## Names of parts -/

section Parts
variable {α : Type} {name : String}

/-- What occurs at most once in each part occurs twice exactly when it occurs in two parts. -/
theorem two_le_count_flatMap {f : α → List String} {parts : List α}
    (h : ∀ a ∈ parts, (f a).Nodup) :
    2 ≤ (parts.flatMap f).count name ↔ ∃ (i j : Nat) (a b : α),
      i < j ∧ parts[i]? = some a ∧ parts[j]? = some b ∧ name ∈ f a ∧ name ∈ f b := by
  induction parts with
  | nil => simp
  | cons first rest ih =>
    have hih := ih fun a ha => h a (List.mem_cons_of_mem _ ha)
    have hfew : (f first).count name ≤ 1 :=
      List.nodup_iff_count.mp (h first List.mem_cons_self) name
    rw [List.flatMap_cons, List.count_append]
    constructor
    · intro htwo
      by_cases hrest : 2 ≤ (rest.flatMap f).count name
      · obtain ⟨i, j, a, b, hij, ha, hb, hna, hnb⟩ := hih.mp hrest
        exact ⟨i + 1, j + 1, a, b, by omega, by simpa using ha, by simpa using hb, hna, hnb⟩
      · have hfirst : name ∈ f first := List.count_pos_iff.mp (by omega)
        have hlater : name ∈ rest.flatMap f := List.count_pos_iff.mp (by omega)
        obtain ⟨b, hb, hnb⟩ := List.mem_flatMap.mp hlater
        obtain ⟨j, hj⟩ := List.mem_iff_getElem?.mp hb
        exact ⟨0, j + 1, first, b, by omega, rfl, by simpa using hj, hfirst, hnb⟩
    · rintro ⟨i, j, a, b, hij, ha, hb, hna, hnb⟩
      obtain ⟨j, rfl⟩ : ∃ k, j = k + 1 := ⟨j - 1, by omega⟩
      rw [List.getElem?_cons_succ] at hb
      cases i with
      | zero =>
        obtain rfl : first = a := by simpa using ha
        have hfirst : 0 < (f first).count name := List.count_pos_iff.mpr hna
        have hlater : 0 < (rest.flatMap f).count name :=
          List.count_pos_iff.mpr (List.mem_flatMap.mpr ⟨b, List.mem_of_getElem? hb, hnb⟩)
        omega
      | succ i =>
        have hrest := hih.mpr ⟨i, j, a, b, by omega, by simpa using ha, hb, hna, hnb⟩
        omega

/-- Names that are sorted into two lists part by part are sorted into two lists. -/
theorem perm_mapIdx_flatten {f h : Nat → α → List String} {g : α → List String} {parts : List α}
    (hparts : ∀ k, ∀ a ∈ parts, (f k a).Perm (g a ++ h k a)) :
    (parts.mapIdx f).flatten.Perm (parts.flatMap g ++ (parts.mapIdx h).flatten) := by
  induction parts generalizing f h with
  | nil => exact .refl _
  | cons first rest ih =>
    have hfirst := List.perm_iff_count.mp (hparts 0 first List.mem_cons_self)
    have hrest := List.perm_iff_count.mp (ih (f := fun k => f (k + 1)) (h := fun k => h (k + 1))
      fun k a ha => hparts (k + 1) a (List.mem_cons_of_mem _ ha))
    rw [List.mapIdx_cons, List.mapIdx_cons, List.perm_iff_count]
    intro n
    have hn := hfirst n
    have hn' := hrest n
    simp only [List.flatten_cons, List.flatMap_cons, List.count_append] at hn hn' ⊢
    omega

end Parts
end AppConfig

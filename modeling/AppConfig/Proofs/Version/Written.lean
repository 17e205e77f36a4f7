import AppConfig.Version.Reader
import AppConfig.Proofs.Journal.Runs

/-! # Texts that write a version

`v.IsWritten s` says which texts write the version `v`, without the reader: between its
dots `s` has groups of digits, each within a 64-bit word, and the numbers of `v` are those of the
first four groups, with zeros for missing ones. `ofText_result_ok`: the reader ends with `v` on
exactly these texts. `notes s` are the diagnostics of a text: one if it has more than four groups.
-/

namespace AppConfig.Version
set_option autoImplicit false

/-- The text of one number of a version. -/
def IsGroup (digits : List Char) : Prop :=
  digits ≠ [] ∧ digits.all Number.isDigit = true ∧ Number.natural 0 digits < UInt64.size

/-- The text writes the version. -/
structure IsWritten (v : Version) (s : String) : Prop where
  groups : ∀ digits ∈ Text.splitOn '.' s.toList, IsGroup digits
  numbers : v.numbers =
    ((Text.splitOn '.' s.toList).map (Number.natural 0) ++ [0, 0, 0, 0]).take 4

theorem group?_eq_some {digits : List Char} {n : Nat} :
    group? digits = some n ↔ IsGroup digits ∧ n = Number.natural 0 digits := by
  unfold group? IsGroup
  cases digits with
  | nil => simp
  | cons c rest =>
    cases hall : (c :: rest).all Number.isDigit with
    | false => simp
    | true =>
      by_cases hlt : Number.natural 0 (c :: rest) < UInt64.size
      · simp only [hlt]
        simp [eq_comm]
      · simp only [hlt]
        simp

theorem mapM_group?_eq_some {parts : List (List Char)} {groups : List Nat} :
    parts.mapM group? = some groups ↔
      (∀ digits ∈ parts, IsGroup digits) ∧ groups = parts.map (Number.natural 0) := by
  induction parts generalizing groups with
  | nil => simp [eq_comm]
  | cons part parts ih =>
    rw [List.mapM_cons]
    constructor
    · intro h
      obtain ⟨n, hn, h⟩ := Option.bind_eq_some_iff.mp h
      obtain ⟨rest, hrest, h⟩ := Option.bind_eq_some_iff.mp h
      obtain ⟨hpart, rfl⟩ := group?_eq_some.mp hn
      obtain ⟨hparts, rfl⟩ := ih.mp hrest
      refine ⟨?_, (Option.some.inj h).symm⟩
      intro digits hd
      rcases List.mem_cons.mp hd with rfl | hd
      · exact hpart
      · exact hparts digits hd
    · rintro ⟨hall, rfl⟩
      have hpart : group? part = some (Number.natural 0 part) :=
        group?_eq_some.mpr ⟨hall part List.mem_cons_self, rfl⟩
      have hrest : parts.mapM group? = some (parts.map (Number.natural 0)) :=
        ih.mpr ⟨fun digits hd => hall digits (List.mem_cons_of_mem part hd), rfl⟩
      rw [hpart, hrest]
      rfl

/-- A version is known by its numbers. -/
theorem numbers_injective {v w : Version} (h : v.numbers = w.numbers) : v = w := by
  cases v
  cases w
  simp only [numbers, List.cons.injEq, UInt64.toNat_inj, and_true] at h
  obtain ⟨rfl, rfl, rfl, rfl⟩ := h
  rfl

theorem numbers_ofGroups {groups : List Nat} (h : ∀ n ∈ groups, n < UInt64.size) :
    (ofGroups groups).numbers = (groups ++ [0, 0, 0, 0]).take 4 := by
  have hword : ∀ i : Nat, (UInt64.ofNat (groups[i]?.getD 0)).toNat = groups[i]?.getD 0 := by
    intro i
    apply UInt64.toNat_ofNat_of_lt'
    cases hi : groups[i]? with
    | none => decide
    | some n => exact h n (List.mem_of_getElem? hi)
  simp only [numbers, ofGroups, hword]
  match groups with
  | [] | [_] | [_, _] | [_, _, _] | _ :: _ :: _ :: _ :: _ => simp

theorem ofText_of_groups {s : String} {groups : List Nat} (h : groups? s.toList = some groups) :
    (ofText s).result = .ok (ofGroups groups) := by
  unfold ofText
  rw [h]
  by_cases hl : groupLimit < groups.length
  · simp only [hl, if_true]
    rfl
  · simp only [hl, if_false]
    rfl

theorem ofText_result_error {s : String} {fault : Fault} :
    (ofText s).result = .error fault ↔ groups? s.toList = none ∧ fault = .invalidVersion s := by
  cases h : groups? s.toList with
  | none =>
    simp only [ofText, h]
    simp [eq_comm]
  | some groups => simp [ofText_of_groups h]

theorem ofText_result_ok {s : String} {v : Version} :
    (ofText s).result = .ok v ↔ v.IsWritten s := by
  have hsome : groups? s.toList = some ((Text.splitOn '.' s.toList).map (Number.natural 0)) ↔
      ∀ digits ∈ Text.splitOn '.' s.toList, IsGroup digits :=
    mapM_group?_eq_some.trans (and_iff_left rfl)
  have hbound : (∀ digits ∈ Text.splitOn '.' s.toList, IsGroup digits) →
      ∀ n ∈ (Text.splitOn '.' s.toList).map (Number.natural 0), n < UInt64.size := by
    intro hall n hn
    obtain ⟨digits, hd, rfl⟩ := List.mem_map.mp hn
    exact (hall digits hd).2.2
  constructor
  · intro h
    cases hg : groups? s.toList with
    | none =>
      rw [ofText_result_error.mpr ⟨hg, rfl⟩] at h
      cases h
    | some groups =>
      obtain ⟨hall, rfl⟩ := mapM_group?_eq_some.mp hg
      rw [ofText_of_groups hg] at h
      obtain rfl := Except.ok.inj h
      exact ⟨hall, numbers_ofGroups (hbound hall)⟩
  · rintro ⟨hall, hnumbers⟩
    rw [ofText_of_groups (hsome.mpr hall)]
    have hv : ofGroups ((Text.splitOn '.' s.toList).map (Number.natural 0)) = v :=
      numbers_injective ((numbers_ofGroups (hbound hall)).trans hnumbers.symm)
    rw [hv]

/-! ## Groups that are dropped -/

/-- The diagnostics of a version text. -/
def notes (s : String) : Diagnostics :=
  match groups? s.toList with
  | none => []
  | some groups =>
    if groupLimit < groups.length then [discarded (ofGroups groups) (groups.length - groupLimit)]
    else []

theorem ofText_diagnostics (s : String) : (ofText s).journal.diagnostics = notes s := by
  unfold ofText notes
  cases groups? s.toList with
  | none => rfl
  | some groups =>
    by_cases hl : groupLimit < groups.length
    · simp only [hl, if_true]
      rfl
    · simp only [hl, if_false]
      rfl

/-- A diagnostic of a version tells that it has more than four groups. -/
theorem mem_notes {s : String} {d : Diagnostic} (h : d ∈ notes s) :
    d.location = [] ∧ d.code = .versionGroupsDiscarded ∧
      groupLimit < (Text.splitOn '.' s.toList).length := by
  unfold notes at h
  split at h
  · cases h
  · next groups hgroups =>
    split at h
    · next hl =>
      obtain rfl := List.mem_singleton.mp h
      obtain ⟨-, rfl⟩ := mapM_group?_eq_some.mp hgroups
      exact ⟨rfl, rfl, by simpa using hl⟩
    · cases h

theorem notes_length_le (s : String) : (notes s).length ≤ 1 := by
  unfold notes
  split
  · exact Nat.zero_le 1
  · split
    · exact Nat.le_refl 1
    · exact Nat.zero_le 1

/-- A version with more than four groups has a diagnostic. -/
theorem notes_ne_nil {s : String} {v : Version} (hv : (ofText s).result = .ok v)
    (hl : groupLimit < (Text.splitOn '.' s.toList).length) : notes s ≠ [] := by
  unfold notes
  cases hgroups : groups? s.toList with
  | none =>
    rw [ofText_result_error.mpr ⟨hgroups, rfl⟩] at hv
    cases hv
  | some groups =>
    obtain ⟨-, rfl⟩ := mapM_group?_eq_some.mp hgroups
    simp [hl]

end AppConfig.Version

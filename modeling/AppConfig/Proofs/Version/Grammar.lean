import AppConfig.Proofs.Session.Readers
import AppConfig.Proofs.Text.Split
import AppConfig.Proofs.Version.Written
import AppConfig.Proofs.Journal.Shown

/-! # The grammar of version texts

* `HasGroups groups s`: the text is these groups of digits with single dots between them, and a
  64-bit word holds the value of each.
* `Reads s here r notes`: reading the text at a place ends with the result and leaves the
  diagnostics, both with a journal of its own and on the diagnostics of a caller.
* `grammar_ofText`: which texts are read, to which version, and what becomes of the others.
-/

namespace AppConfig.Version
set_option autoImplicit false
open Outcome

variable {s : String} {here : Location} {groups : List (List Char)} {v : Version}

/-- The number that digits write. Zeros in front do not change it. -/
def value (digits : List Char) : Nat := Nat.ofDigitChars 10 digits 0

/-- The text is these groups of digits with single dots between them, and a 64-bit word holds the
value of each. -/
structure HasGroups (groups : List (List Char)) (s : String) : Prop where
  text : s.toList = ['.'].intercalate groups
  nonempty : groups ≠ []
  digits : ∀ g ∈ groups, g ≠ [] ∧ ∀ c ∈ g, c.isDigit = true
  bounded : ∀ g ∈ groups, value g ≤ 18446744073709551615

/-- The value of the group at an index, and zero if there is none. -/
def valueAt (groups : List (List Char)) (i : Nat) : Nat := ((groups[i]?).map value).getD 0

/-- The diagnostic of groups after the fourth. -/
def extraNotes (here : Location) (groups : List (List Char)) (v : Version) : Diagnostics :=
  if 4 < groups.length then
    [⟨here, .versionGroupsDiscarded,
      s!"version groups after {v.display} discarded ({groups.length - 4} extra)"⟩]
  else []

/-- Reading the text at a place ends with the result and leaves the diagnostics. -/
structure Reads (s : String) (here : Location) (r : Except Fault Version) (notes : Diagnostics) :
    Prop where
  alone : Shows r notes ((ofText s).within here)
  shared : ∀ ds : Diagnostics, (Recording.versionOfText here s).run.run ds = (r, ds ++ notes)

/-! ## Groups -/

theorem natural_eq_value (digits : List Char) : Number.natural 0 digits = value digits := by
  have hstep : (fun n c => n * 10 + Number.digitValue c) =
      fun (n : Nat) (c : Char) => 10 * n + (c.toNat - '0'.toNat) := by
    funext n c
    rw [Nat.mul_comm]
    rfl
  rw [value, Number.natural, Nat.ofDigitChars_eq_foldl, hstep]

theorem isGroup_iff {g : List Char} : IsGroup g ↔
    (g ≠ [] ∧ ∀ c ∈ g, c.isDigit = true) ∧ value g ≤ 18446744073709551615 := by
  have hdigit : Number.isDigit = Char.isDigit := rfl
  rw [IsGroup, natural_eq_value, hdigit, List.all_eq_true, and_assoc]
  exact and_congr_right fun _ => and_congr_right fun _ => Nat.lt_succ_iff

/-- The groups of a text are its pieces between the dots. -/
theorem hasGroups_iff : HasGroups groups s ↔
    Text.splitOn '.' s.toList = groups ∧ ∀ g ∈ groups, IsGroup g := by
  rw [Text.splitOn_eq_iff, Text.joinWith_eq]
  constructor
  · intro h
    have hdot : ∀ g ∈ groups, '.' ∉ g := by
      intro g hg hmem
      exact absurd ((h.digits g hg).2 '.' hmem) (by decide)
    exact ⟨⟨h.nonempty, hdot, h.text.symm⟩,
      fun g hg => isGroup_iff.mpr ⟨h.digits g hg, h.bounded g hg⟩⟩
  · rintro ⟨⟨hne, -, htext⟩, hgroups⟩
    exact ⟨htext.symm, hne, fun g hg => (isGroup_iff.mp (hgroups g hg)).1,
      fun g hg => (isGroup_iff.mp (hgroups g hg)).2⟩

theorem groups?_eq_some {numbers : List Nat} : groups? s.toList = some numbers ↔
    ∃ groups, HasGroups groups s ∧ numbers = groups.map value := by
  have hvalue : Number.natural 0 = value := funext natural_eq_value
  rw [groups?, mapM_group?_eq_some, hvalue]
  constructor
  · rintro ⟨hgroups, rfl⟩
    exact ⟨_, hasGroups_iff.mpr ⟨rfl, hgroups⟩, rfl⟩
  · rintro ⟨groups, h, rfl⟩
    obtain ⟨rfl, hgroups⟩ := hasGroups_iff.mp h
    exact ⟨hgroups, rfl⟩

theorem groups?_eq_none : groups? s.toList = none ↔ ¬ ∃ groups, HasGroups groups s := by
  rw [Option.eq_none_iff_forall_ne_some]
  constructor
  · rintro h ⟨groups, hgroups⟩
    exact h _ (groups?_eq_some.mpr ⟨groups, hgroups, rfl⟩)
  · intro h numbers hnumbers
    obtain ⟨groups, hgroups, -⟩ := groups?_eq_some.mp hnumbers
    exact h ⟨groups, hgroups⟩

/-! ## Versions -/

/-- The numbers of a version are the values of the first four groups. -/
structure HasValues (v : Version) (groups : List (List Char)) : Prop where
  major : v.major.toNat = valueAt groups 0
  minor : v.minor.toNat = valueAt groups 1
  patch : v.patch.toNat = valueAt groups 2
  build : v.build.toNat = valueAt groups 3

theorem HasGroups.hasValues (h : HasGroups groups s) :
    HasValues (ofGroups (groups.map value)) groups := by
  have hword : ∀ i, (UInt64.ofNat ((groups.map value)[i]?.getD 0)).toNat = valueAt groups i := by
    intro i
    rw [List.getElem?_map]
    apply UInt64.toNat_ofNat_of_lt'
    cases hi : groups[i]? with
    | none => decide
    | some g => exact Nat.lt_succ_of_le (h.bounded g (List.mem_of_getElem? hi))
  exact ⟨hword 0, hword 1, hword 2, hword 3⟩

/-- A journal of its own shows what is added to the diagnostics of a caller. -/
theorem reads_of_shared {r : Except Fault Version} {notes : Diagnostics}
    (h : ∀ ds : Diagnostics, (Recording.versionOfText here s).run.run ds = (r, ds ++ notes)) :
    Reads s here r notes := by
  have hrecords : Records here (ofText s) (Recording.versionOfText here s) := records_versionOfText s
  obtain ⟨hresult, hnotes⟩ := Prod.mk.inj ((hrecords []).symm.trans (h []))
  exact ⟨⟨hresult, hnotes⟩, h⟩

theorem HasGroups.reads (h : HasGroups groups s) (here : Location) :
    Reads s here (.ok (ofGroups (groups.map value)))
      (extraNotes here groups (ofGroups (groups.map value))) := by
  apply reads_of_shared
  intro ds
  rw [Recording.versionOfText, groups?_eq_some.mpr ⟨groups, h, rfl⟩, extraNotes]
  by_cases hl : 4 < groups.length
  · simp only [groupLimit, List.length_map, hl, if_true]
    rfl
  · simp only [groupLimit, List.length_map, hl, if_false, List.append_nil]
    rfl

theorem reads_of_not_hasGroups (h : ¬ ∃ groups, HasGroups groups s) (here : Location) :
    Reads s here (.error (.invalidVersion s)) [] := by
  apply reads_of_shared
  intro ds
  rw [Recording.versionOfText, groups?_eq_none.mpr h, List.append_nil]
  rfl

/-- A text is read if and only if it has groups. The version has the values of the first four, and
there is a diagnostic if there are more. Of any other text the whole is given back as the fault. -/
theorem grammar_ofText (s : String) (here : Location) :
    ((∃ v, ((ofText s).within here).result = .ok v) ↔ ∃ groups, HasGroups groups s) ∧
    (∀ groups, HasGroups groups s → ∃ v, HasValues v groups ∧
      Reads s here (.ok v) (extraNotes here groups v)) ∧
    ((¬ ∃ groups, HasGroups groups s) → Reads s here (.error (.invalidVersion s)) []) := by
  refine ⟨⟨?_, ?_⟩, ?_, fun h => reads_of_not_hasGroups h here⟩
  · rintro ⟨v, hv⟩
    by_contra h
    rw [(reads_of_not_hasGroups h here).alone.result] at hv
    cases hv
  · rintro ⟨groups, h⟩
    exact ⟨_, (h.reads here).alone.result⟩
  · intro groups h
    exact ⟨_, h.hasValues, h.reads here⟩

/-- Five groups, of which the first has a zero in front and the last is dropped. -/
theorem grammar_fiveGroups :
    HasGroups [['0', '7'], ['0'], ['2'], ['3'], ['9']] "07.0.2.3.9" ∧
    (∃ v, HasValues v [['0', '7'], ['0'], ['2'], ['3'], ['9']] ∧
      Reads "07.0.2.3.9" [.field "wolfes_version"] (.ok v)
        (extraNotes [.field "wolfes_version"] [['0', '7'], ['0'], ['2'], ['3'], ['9']] v)) ∧
    (¬ ∃ groups, HasGroups groups "1..2") ∧
    Reads "1..2" .root (.error (.invalidVersion "1..2")) [] := by
  have hfive : HasGroups [['0', '7'], ['0'], ['2'], ['3'], ['9']] "07.0.2.3.9" :=
    ⟨by decide, by decide, by simp, by decide⟩
  have hnone : ¬ ∃ groups, HasGroups groups "1..2" := by
    rw [← groups?_eq_none]
    decide
  exact ⟨hfive, (grammar_ofText _ _).2.1 _ hfive, hnone, (grammar_ofText _ _).2.2 hnone⟩

end AppConfig.Version

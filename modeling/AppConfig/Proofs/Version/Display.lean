import AppConfig.Proofs.Version.Grammar

/-! # Versions and the texts that display them

* `hasGroups_display`: a version is displayed as four groups, the decimal digits of its numbers.
* `HasGroups.append_zero`: with `.0` behind it a text has one group more, which is zero.
* `Precedes`, `HasValues.le_iff`: the order of versions is that of the values of the first four
  groups, the first that differs deciding.
* `text_and_value`: reading what is displayed, displaying what is read, and the order of texts.
-/

namespace AppConfig.Version
set_option autoImplicit false

variable {s : String} {groups groups' : List (List Char)} {v v' : Version}

/-! ## Displayed numbers -/

theorem value_toDigits (n : Nat) : value (Nat.toDigits 10 n) = n := Nat.ofDigitChars_ten_toDigits

theorem toList_word (n : UInt64) : (toString n).toList = Nat.toDigits 10 n.toNat := by
  have hnat : toString n = n.toNat.repr := rfl
  rw [hnat, Nat.toList_repr]

theorem toList_display (v : Version) :
    v.display.toList = ['.'].intercalate (v.numbers.map (Nat.toDigits 10)) := by
  have hdisplay : v.display = toString v.major ++ "." ++ toString v.minor ++ "." ++
      toString v.patch ++ "." ++ toString v.build := rfl
  have hdot : ".".toList = ['.'] := rfl
  simp only [hdisplay, String.toList_append, toList_word, hdot, numbers, List.map_cons,
    List.map_nil, List.intercalate_cons_cons, List.intercalate_singleton, List.append_assoc]

theorem numbers_lt {n : Nat} (h : n ∈ v.numbers) : n < UInt64.size := by
  simp only [numbers, List.mem_cons, List.not_mem_nil, or_false] at h
  rcases h with rfl | rfl | rfl | rfl
  all_goals exact UInt64.toNat_lt_size _

theorem hasGroups_display (v : Version) :
    HasGroups (v.numbers.map (Nat.toDigits 10)) v.display where
  text := toList_display v
  nonempty := by simp [numbers]
  digits := by
    rintro g hg
    obtain ⟨n, -, rfl⟩ := List.mem_map.mp hg
    exact ⟨Nat.toDigits_ne_nil, fun c hc => Nat.isDigit_of_mem_toDigits (by decide) (by decide) hc⟩
  bounded := by
    rintro g hg
    obtain ⟨n, hn, rfl⟩ := List.mem_map.mp hg
    rw [value_toDigits]
    exact Nat.le_of_lt_succ (numbers_lt hn)

theorem ofGroups_numbers (v : Version) : ofGroups v.numbers = v := by
  refine numbers_injective ((numbers_ofGroups fun _ => numbers_lt).trans ?_)
  rfl

theorem extraNotes_eq_nil {here : Location} (h : groups.length ≤ 4) (v : Version) :
    extraNotes here groups v = [] := if_neg (Nat.not_lt.mpr h)

theorem reads_display (v : Version) (here : Location) : Reads v.display here (.ok v) [] := by
  have hvalues : (v.numbers.map (Nat.toDigits 10)).map value = v.numbers := by
    have hid : value ∘ Nat.toDigits 10 = id := funext value_toDigits
    rw [List.map_map, hid, List.map_id]
  have hreads := (hasGroups_display v).reads here
  rwa [hvalues, ofGroups_numbers, extraNotes_eq_nil (List.length_map _).le] at hreads

/-! ## One more group -/

theorem intercalate_concat {α : Type} (mark item : List α) {items : List (List α)}
    (h : items ≠ []) :
    mark.intercalate (items ++ [item]) = mark.intercalate items ++ mark ++ item := by
  induction items with
  | nil => exact absurd rfl h
  | cons first rest ih =>
    cases rest with
    | nil => simp [List.intercalate_cons_cons, List.intercalate_singleton]
    | cons second rest =>
      have htail := ih (List.cons_ne_nil second rest)
      simp only [List.cons_append, List.intercalate_cons_cons, List.append_assoc] at htail ⊢
      rw [htail]

theorem HasGroups.append_zero (h : HasGroups groups s) :
    HasGroups (groups ++ [['0']]) (s ++ ".0") where
  text := by
    have hend : ".0".toList = ['.', '0'] := rfl
    rw [String.toList_append, h.text, intercalate_concat _ _ h.nonempty, hend, List.append_assoc]
    rfl
  nonempty := by simp
  digits := by
    intro g hg
    rcases List.mem_append.mp hg with hg | hg
    · exact h.digits g hg
    · obtain rfl := List.mem_singleton.mp hg
      refine ⟨List.cons_ne_nil _ _, fun c hc => ?_⟩
      obtain rfl := List.mem_singleton.mp hc
      rfl
  bounded := by
    intro g hg
    rcases List.mem_append.mp hg with hg | hg
    · exact h.bounded g hg
    · obtain rfl := List.mem_singleton.mp hg
      decide

theorem ofGroups_append_zero (numbers : List Nat) :
    ofGroups (numbers ++ [0]) = ofGroups numbers := by
  have hgroup : ∀ i : Nat, ((numbers ++ [0])[i]?).getD 0 = (numbers[i]?).getD 0 := by
    intro i
    rcases lt_trichotomy i numbers.length with hi | hi | hi
    · rw [List.getElem?_append_left hi]
    · rw [hi, List.getElem?_concat_length, List.getElem?_eq_none le_rfl]
      rfl
    · have hlong : (numbers ++ [0]).length ≤ i := by
        rw [List.length_append]
        exact hi
      rw [List.getElem?_eq_none hlong, List.getElem?_eq_none hi.le]
  simp only [ofGroups, hgroup]

theorem HasGroups.reads_append_zero (h : HasGroups groups s) (hfew : groups.length < 4)
    (here : Location) :
    Reads s here (.ok (ofGroups (groups.map value))) [] ∧
      Reads (s ++ ".0") here (.ok (ofGroups (groups.map value))) [] := by
  have hshort := h.reads here
  have hlong := h.append_zero.reads here
  have hzero : [['0']].map value = [0] := rfl
  have hfour : (groups ++ [['0']]).length ≤ 4 := by
    rw [List.length_append]
    exact hfew
  rw [extraNotes_eq_nil hfew.le] at hshort
  rw [List.map_append, hzero, ofGroups_append_zero, extraNotes_eq_nil hfour] at hlong
  exact ⟨hshort, hlong⟩

/-! ## Order -/

/-- Of the values of the first four groups, zero where a group is missing, the first that differs
is smaller on the left. -/
def Precedes (groups groups' : List (List Char)) : Prop :=
  ∃ i < 4, (∀ j < i, valueAt groups j = valueAt groups' j) ∧ valueAt groups i < valueAt groups' i

/-- The first four groups have the same values, zero where a group is missing. -/
def SameValues (groups groups' : List (List Char)) : Prop :=
  ∀ i < 4, valueAt groups i = valueAt groups' i

instance (groups groups' : List (List Char)) : Decidable (Precedes groups groups') :=
  inferInstanceAs (Decidable (∃ i < 4, (∀ j < i, valueAt groups j = valueAt groups' j) ∧
    valueAt groups i < valueAt groups' i))

instance (groups groups' : List (List Char)) : Decidable (SameValues groups groups') :=
  inferInstanceAs (Decidable (∀ i < 4, valueAt groups i = valueAt groups' i))

/-- The order of lists of numbers, place by place. -/
theorem leNumbers_map {n : Nat} {f g : Nat → Nat} :
    leNumbers ((List.range n).map f) ((List.range n).map g) = true ↔
      (∃ i < n, (∀ j < i, f j = g j) ∧ f i < g i) ∨ ∀ i < n, f i = g i := by
  induction n generalizing f g with
  | zero => simp [leNumbers]
  | succ n ih =>
    have hrest := ih (f := f ∘ Nat.succ) (g := g ∘ Nat.succ)
    simp only [List.range_succ_eq_map, List.map_cons, List.map_map, leNumbers, Bool.or_eq_true,
      Bool.and_eq_true, decide_eq_true_eq, hrest, Function.comp_apply]
    -- The place that decides is the first one, or it is a place of the rest.
    constructor
    · rintro (hlt | ⟨heq, ⟨i, hi, hbefore, hlt⟩ | hall⟩)
      · exact .inl ⟨0, by omega, by simp, hlt⟩
      · exact .inl ⟨i + 1, by omega, Nat.forall_lt_succ_left.mpr ⟨heq, hbefore⟩, hlt⟩
      · exact .inr (Nat.forall_lt_succ_left.mpr ⟨heq, hall⟩)
    · rintro (⟨i, hi, hbefore, hlt⟩ | hall)
      · cases i with
        | zero => exact .inl hlt
        | succ i =>
          obtain ⟨heq, hbefore⟩ := Nat.forall_lt_succ_left.mp hbefore
          exact .inr ⟨heq, .inl ⟨i, by omega, hbefore, hlt⟩⟩
      · obtain ⟨heq, hall⟩ := Nat.forall_lt_succ_left.mp hall
        exact .inr ⟨heq, .inr hall⟩

theorem HasValues.numbers_eq (h : HasValues v groups) :
    v.numbers = (List.range 4).map (valueAt groups) := by
  rw [numbers, h.major, h.minor, h.patch, h.build]
  rfl

theorem HasValues.le_iff (h : HasValues v groups) (h' : HasValues v' groups') :
    v.le v' = true ↔ Precedes groups groups' ∨ SameValues groups groups' := by
  rw [le, h.numbers_eq, h'.numbers_eq]
  exact leNumbers_map

theorem HasValues.eq_iff (h : HasValues v groups) (h' : HasValues v' groups') :
    v = v' ↔ SameValues groups groups' := by
  constructor
  · rintro rfl
    have hnumbers := h.numbers_eq.symm.trans h'.numbers_eq
    exact fun i hi => List.map_inj_left.mp hnumbers i (List.mem_range.mpr hi)
  · intro hsame
    apply numbers_injective
    rw [h.numbers_eq, h'.numbers_eq]
    exact List.map_congr_left fun i hi => hsame i (List.mem_range.mp hi)

/-! ## Texts and values -/

section Texts
variable {here : Location} {notes notes' : Diagnostics}

theorem Reads.exists_hasGroups (h : Reads s here (.ok v) notes) : ∃ groups, HasGroups groups s := by
  by_contra hgroups
  have hfault := (reads_of_not_hasGroups hgroups here).alone.result
  rw [h.alone.result] at hfault
  cases hfault

theorem HasGroups.eq_ofGroups (h : HasGroups groups s) (hreads : Reads s here (.ok v) notes) :
    v = ofGroups (groups.map value) :=
  Except.ok.inj (hreads.alone.result.symm.trans (h.reads here).alone.result)

theorem HasGroups.hasValues_of_reads (h : HasGroups groups s)
    (hreads : Reads s here (.ok v) notes) : HasValues v groups := by
  rw [h.eq_ofGroups hreads]
  exact h.hasValues

/-- What a version displays is read as the version, without a diagnostic, and so is what is
displayed of a text that is read. A text of fewer than four groups is read alike with `.0` behind
it. Two versions that are read are ordered as the values of the first four groups of their
texts. -/
theorem text_and_value (here : Location) :
    (∀ v : Version, Reads v.display here (.ok v) []) ∧
    (∀ s v notes, Reads s here (.ok v) notes →
      Reads v.display here (.ok v) [] ∧ (∃ groups, HasGroups groups s) ∧
      ∀ groups, HasGroups groups s → groups.length < 4 →
        Reads s here (.ok v) [] ∧ Reads (s ++ ".0") here (.ok v) []) ∧
    (∀ s s' v v' notes notes', Reads s here (.ok v) notes → Reads s' here (.ok v') notes' →
      ∀ groups groups', HasGroups groups s → HasGroups groups' s' →
        (v.le v' = true ↔ Precedes groups groups' ∨ SameValues groups groups') ∧
        (v = v' ↔ SameValues groups groups')) := by
  refine ⟨fun v => reads_display v here, ?_, ?_⟩
  · intro s v notes hreads
    refine ⟨reads_display v here, hreads.exists_hasGroups, ?_⟩
    intro groups hgroups hfew
    rw [hgroups.eq_ofGroups hreads]
    exact hgroups.reads_append_zero hfew here
  · intro s s' v v' notes notes' hreads hreads' groups groups' hgroups hgroups'
    have hvalues := hgroups.hasValues_of_reads hreads
    have hvalues' := hgroups'.hasValues_of_reads hreads'
    exact ⟨hvalues.le_iff hvalues', hvalues.eq_iff hvalues'⟩

/-- `0.9` is below `0.10`, and `0.9.0` is read as `0.9` is. -/
theorem text_and_value_nine_ten :
    HasGroups [['0'], ['9']] "0.9" ∧ HasGroups [['0'], ['1', '0']] "0.10" ∧
    Precedes [['0'], ['9']] [['0'], ['1', '0']] ∧
    Reads "0.9" .root (.ok ⟨0, 9, 0, 0⟩) [] ∧ Reads "0.10" .root (.ok ⟨0, 10, 0, 0⟩) [] ∧
    Version.le ⟨0, 9, 0, 0⟩ ⟨0, 10, 0, 0⟩ = true ∧
    (⟨0, 9, 0, 0⟩ : Version) ≠ ⟨0, 10, 0, 0⟩ ∧
    Reads ("0.9" ++ ".0") .root (.ok ⟨0, 9, 0, 0⟩) [] := by
  have hnine : HasGroups [['0'], ['9']] "0.9" := ⟨by decide, by decide, by simp, by decide⟩
  have hten : HasGroups [['0'], ['1', '0']] "0.10" := ⟨by decide, by decide, by simp, by decide⟩
  have hnineReads : Reads "0.9" .root (.ok ⟨0, 9, 0, 0⟩) [] := hnine.reads .root
  have htenReads : Reads "0.10" .root (.ok ⟨0, 10, 0, 0⟩) [] := hten.reads .root
  have hbelow : Precedes [['0'], ['9']] [['0'], ['1', '0']] := by decide
  obtain ⟨-, hsame, horder⟩ := text_and_value .root
  obtain ⟨hle, heq⟩ := horder _ _ _ _ _ _ hnineReads htenReads _ _ hnine hten
  refine ⟨hnine, hten, hbelow, hnineReads, htenReads, hle.mpr (.inl hbelow), ?_, ?_⟩
  · intro h
    exact absurd (heq.mp h) (by decide)
  · exact ((hsame _ _ _ hnineReads).2.2 _ hnine (by decide)).2

end Texts
end AppConfig.Version

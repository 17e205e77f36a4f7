import AppConfig.Proofs.Naming.Defaults

/-! # Default names are distinct

`IsDefault.unique`: a default name tells the kind and the index of the entity that it is made for,
and `defaultId_ne_defaultFunction`: whether it is an id or a function. Without its digits a default
name is one of ten words; with the word known, the digits are those of the index.
-/

namespace AppConfig.EntityKind
set_option autoImplicit false

/-- The name is one that an entity of the kind at the index has by default. -/
def IsDefault (kind : EntityKind) (index : Nat) (name : String) : Prop :=
  name = kind.defaultId index ∨ name = kind.defaultFunction index

/-! ## Names without their digits -/

def withoutDigits (name : String) : List Char := name.toList.filter fun c => !c.isDigit

def idWord (kind : EntityKind) : List Char := '_' :: (kind.idStem.toList ++ ['_'])

def functionWord (kind : EntityKind) : List Char :=
  '_' :: '_' :: (kind.functionStem.toList ++ kind.functionEnd.toList)

theorem filter_index (index : Nat) :
    (toString index).toList.filter (fun c => !c.isDigit) = [] := by
  rw [List.filter_eq_nil_iff, Nat.toString_eq_repr, Nat.toList_repr]
  intro c hc
  simp [Nat.isDigit_of_mem_toDigits (by decide) (by decide) hc]

theorem filter_mark (rest : List Char) : ('_' :: rest).filter (fun c => !c.isDigit) =
    '_' :: rest.filter fun c => !c.isDigit := rfl

/-- No part of a default name but the index has digits. -/
theorem filter_stems : ∀ kind ∈ all,
    kind.idStem.toList.filter (fun c => !c.isDigit) = kind.idStem.toList ∧
    kind.functionStem.toList.filter (fun c => !c.isDigit) = kind.functionStem.toList ∧
    kind.functionEnd.toList.filter (fun c => !c.isDigit) = kind.functionEnd.toList := by
  decide +kernel

theorem withoutDigits_defaultId (kind : EntityKind) (index : Nat) :
    withoutDigits (kind.defaultId index) = kind.idWord := by
  have hstem := (filter_stems kind kind.mem_all).1
  rw [withoutDigits, toList_defaultId, filter_mark, List.filter_append, hstem, filter_mark,
    filter_index, idWord]

theorem withoutDigits_defaultFunction (kind : EntityKind) (index : Nat) :
    withoutDigits (kind.defaultFunction index) = kind.functionWord := by
  obtain ⟨-, hstem, hend⟩ := filter_stems kind kind.mem_all
  rw [withoutDigits, toList_defaultFunction, filter_mark, filter_mark, List.filter_append,
    List.filter_append, hstem, hend, filter_index, List.append_nil, functionWord]

theorem words_distinct : ∀ kind ∈ all, ∀ kind' ∈ all,
    (kind.idWord = kind'.idWord → kind = kind') ∧
    (kind.functionWord = kind'.functionWord → kind = kind') ∧
    kind.idWord ≠ kind'.functionWord := by
  decide +kernel

/-! ## Default names -/

theorem toString_index_inj {i j : Nat} (h : (toString i).toList = (toString j).toList) : i = j := by
  have hdigits : Nat.toDigits 10 i = Nat.toDigits 10 j := by
    rwa [Nat.toString_eq_repr, Nat.toString_eq_repr, Nat.toList_repr, Nat.toList_repr] at h
  calc
    i = Nat.ofDigitChars 10 (Nat.toDigits 10 i) 0 := Nat.ofDigitChars_ten_toDigits.symm
    _ = Nat.ofDigitChars 10 (Nat.toDigits 10 j) 0 := by rw [hdigits]
    _ = j := Nat.ofDigitChars_ten_toDigits

theorem defaultId_inj {kind kind' : EntityKind} {i j : Nat}
    (h : kind.defaultId i = kind'.defaultId j) : kind = kind' ∧ i = j := by
  have hword : kind.idWord = kind'.idWord := by
    rw [← withoutDigits_defaultId kind i, h, withoutDigits_defaultId]
  obtain rfl := (words_distinct kind kind.mem_all kind' kind'.mem_all).1 hword
  -- With the kinds the same, what stands before the digits is the same.
  have hchars := congrArg String.toList h
  rw [toList_defaultId, toList_defaultId, List.cons_inj_right] at hchars
  have hdigits := List.append_cancel_left hchars
  exact ⟨rfl, toString_index_inj (List.cons.inj hdigits).2⟩

theorem defaultFunction_inj {kind kind' : EntityKind} {i j : Nat}
    (h : kind.defaultFunction i = kind'.defaultFunction j) : kind = kind' ∧ i = j := by
  have hword : kind.functionWord = kind'.functionWord := by
    rw [← withoutDigits_defaultFunction kind i, h, withoutDigits_defaultFunction]
  obtain rfl := (words_distinct kind kind.mem_all kind' kind'.mem_all).2.1 hword
  have hchars := congrArg String.toList h
  rw [toList_defaultFunction, toList_defaultFunction, List.cons_inj_right,
    List.cons_inj_right] at hchars
  have hdigits := List.append_cancel_left (List.append_cancel_right hchars)
  exact ⟨rfl, toString_index_inj hdigits⟩

theorem defaultId_ne_defaultFunction (kind kind' : EntityKind) (i j : Nat) :
    kind.defaultId i ≠ kind'.defaultFunction j := by
  intro h
  apply (words_distinct kind kind.mem_all kind' kind'.mem_all).2.2
  rw [← withoutDigits_defaultId kind i, h, withoutDigits_defaultFunction]

theorem IsDefault.unique {kind kind' : EntityKind} {i j : Nat} {name : String}
    (h : kind.IsDefault i name) (h' : kind'.IsDefault j name) : kind = kind' ∧ i = j := by
  rcases h with rfl | rfl
  · rcases h' with h' | h'
    · exact defaultId_inj h'
    · exact absurd h' (defaultId_ne_defaultFunction kind kind' i j)
  · rcases h' with h' | h'
    · exact absurd h'.symm (defaultId_ne_defaultFunction kind' kind j i)
    · exact defaultFunction_inj h'

theorem IsDefault.head {kind : EntityKind} {i : Nat} {name : String} (h : kind.IsDefault i name) :
    name.toList.head? = some '_' := by
  rcases h with rfl | rfl
  · rw [toList_defaultId]
    rfl
  · rw [toList_defaultFunction]
    rfl

end AppConfig.EntityKind

import AppConfig.Naming.Entity
import AppConfig.Naming.Identifier

/-! # Default names are identifiers

`isValid_defaultId`, `isValid_defaultFunction`: a default name begins with an underscore, goes on
with letters, underscores and the digits of the index, and no reserved word begins so.
-/

namespace AppConfig
set_option autoImplicit false

namespace Identifier

theorem isPart_of_isDigit {c : Char} (h : c.isDigit = true) : isPart c = true := by
  have hrange : '0' ≤ c ∧ c ≤ '9' := by
    rw [Char.isDigit, Bool.and_eq_true, decide_eq_true_eq, decide_eq_true_eq] at h
    exact h
  simp [isPart, hrange.1, hrange.2]

/-- The digits of an index may stand in a symbol. -/
theorem all_isPart_index (index : Nat) : (toString index).toList.all isPart = true := by
  rw [Nat.toString_eq_repr, Nat.toList_repr, List.all_eq_true]
  intro c hc
  exact isPart_of_isDigit (Nat.isDigit_of_mem_toDigits (by decide) (by decide) hc)

/-- No reserved word begins with an underscore. -/
theorem reserved_head : ∀ word ∈ reserved, word.toList.head? ≠ some '_' := by decide +kernel

/-- An underscore and then parts of symbols make a name that can be a symbol. -/
theorem isValid_of_underscore {name : String} {rest : List Char} (hname : name.toList = '_' :: rest)
    (hrest : rest.all isPart = true) : isValid name = true := by
  have hform : hasForm name.toList = true := by
    rw [hname, hasForm, hrest]
    rfl
  have hfree : reserved.contains name = false := by
    rw [List.contains_eq_mem, decide_eq_false_iff_not]
    intro hmem
    apply reserved_head name hmem
    rw [hname]
    rfl
  rw [isValid, hform, hfree]
  rfl

end Identifier

namespace EntityKind
open Identifier

theorem mem_all (kind : EntityKind) : kind ∈ all := by
  cases kind with
  | timer => decide
  | endpoint kind => cases kind <;> decide

theorem toList_defaultId (kind : EntityKind) (index : Nat) :
    (kind.defaultId index).toList =
      '_' :: (kind.idStem.toList ++ '_' :: (toString index).toList) := by
  have hname : kind.defaultId index = "_" ++ kind.idStem ++ "_" ++ toString index := rfl
  rw [hname, String.toList_append, String.toList_append, String.toList_append]
  simp

theorem toList_defaultFunction (kind : EntityKind) (index : Nat) :
    (kind.defaultFunction index).toList =
      '_' :: '_' :: (kind.functionStem.toList ++ (toString index).toList ++
        kind.functionEnd.toList) := by
  have hname : kind.defaultFunction index =
      "__" ++ kind.functionStem ++ toString index ++ kind.functionEnd := rfl
  rw [hname, String.toList_append, String.toList_append, String.toList_append]
  simp

theorem all_isPart_idStem (kind : EntityKind) : kind.idStem.toList.all isPart = true := by
  cases kind with
  | timer => decide +kernel
  | endpoint kind => cases kind <;> decide +kernel

theorem all_isPart_functionStem (kind : EntityKind) :
    kind.functionStem.toList.all isPart = true := by
  cases kind with
  | timer => decide +kernel
  | endpoint kind => cases kind <;> decide +kernel

theorem all_isPart_functionEnd (kind : EntityKind) :
    kind.functionEnd.toList.all isPart = true := by
  cases kind with
  | timer => decide +kernel
  | endpoint kind => cases kind <;> decide +kernel

theorem isValid_defaultId (kind : EntityKind) (index : Nat) :
    isValid (kind.defaultId index) = true := by
  apply isValid_of_underscore (kind.toList_defaultId index)
  rw [List.all_append, List.all_cons, all_isPart_idStem, all_isPart_index]
  rfl

theorem isValid_defaultFunction (kind : EntityKind) (index : Nat) :
    isValid (kind.defaultFunction index) = true := by
  apply isValid_of_underscore (kind.toList_defaultFunction index)
  rw [List.all_cons, List.all_append, List.all_append, all_isPart_functionStem, all_isPart_index,
    all_isPart_functionEnd]
  rfl

end EntityKind
end AppConfig

import AppConfig.Plan.Codes
import AppConfig.Number.Word

/-! # Members and codes

* `declaredCodes`: the codes that documents may use, by the names of the enumerations in messages.
* `LawfulCoded`: an enumeration that lists all its members, under different codes.
* `ofCode?_eq_some`, `ofCode?_eq_none`: the member of a code is the one that has it; there is none
  exactly for a code that no member has.
-/

namespace AppConfig
set_option autoImplicit false

/-- The codes of each enumeration that a document may use, by its name in messages. -/
def declaredCodes : List (String × List Int) :=
  [("platform", [0, 1, 2, 3]), ("lang", [0, 1, 2, 3, 4]),
   ("protocol_type", [0, 1, 2, 3, 4, 5, 6, 7]), ("msg_type", [0, 1, 2, 3, 4, 5, 6, 7]),
   ("timer type", [0, 1, 2])]

/-- An enumeration stands once in the table. -/
theorem declaredCodes_unique : ∀ p ∈ declaredCodes, ∀ q ∈ declaredCodes, p.1 = q.1 → p = q := by
  decide

/-- All members are listed; their codes differ, fit a signed word of 64 bits, and are declared. -/
class LawfulCoded (α : Type) [Coded α] : Prop where
  mem_all : ∀ a : α, a ∈ (Coded.all : List α)
  code_injective : ∀ a b : α, Coded.code a = Coded.code b → a = b
  code_signed : ∀ a : α, IsSigned64 (Coded.code a)
  declared : (Coded.kind α, (Coded.all : List α).map Coded.code) ∈ declaredCodes

instance : LawfulCoded Platform where
  mem_all := by intro a; cases a <;> decide
  code_injective := by intro a b; cases a <;> cases b <;> decide
  code_signed := by intro a; cases a <;> decide
  declared := by decide

instance : LawfulCoded Language where
  mem_all := by intro a; cases a <;> decide
  code_injective := by intro a b; cases a <;> cases b <;> decide
  code_signed := by intro a; cases a <;> decide
  declared := by decide

instance : LawfulCoded Protocol where
  mem_all := by intro a; cases a <;> decide
  code_injective := by intro a b; cases a <;> cases b <;> decide
  code_signed := by intro a; cases a <;> decide
  declared := by decide

instance : LawfulCoded MessageFormat where
  mem_all := by intro a; cases a <;> decide
  code_injective := by intro a b; cases a <;> cases b <;> decide
  code_signed := by intro a; cases a <;> decide
  declared := by decide

instance : LawfulCoded TimerClock where
  mem_all := by intro a; cases a <;> decide
  code_injective := by intro a b; cases a <;> cases b <;> decide
  code_signed := by intro a; cases a <;> decide
  declared := by decide

namespace Coded

variable {α : Type} [Coded α]

theorem ofCode?_eq_some [LawfulCoded α] {n : Int} {a : α} :
    ofCode? α n = some a ↔ n = code a := by
  unfold ofCode?
  constructor
  · intro h
    have hcode := List.find?_some h
    exact (of_decide_eq_true hcode).symm
  · rintro rfl
    cases hfind : (all : List α).find? fun b => code b = code a with
    | none =>
      have hnone := List.find?_eq_none.mp hfind a (LawfulCoded.mem_all a)
      exact absurd (decide_eq_true rfl) hnone
    | some b =>
      have hcode := List.find?_some hfind
      rw [LawfulCoded.code_injective b a (of_decide_eq_true hcode)]

theorem ofCode?_eq_none {n : Int} : ofCode? α n = none ↔ n ∉ (all : List α).map code := by
  unfold ofCode?
  rw [List.find?_eq_none]
  simp only [decide_eq_true_eq, List.mem_map, not_exists, not_and]

/-- The declared codes of an enumeration are the codes of its members. -/
theorem mem_declared [LawfulCoded α] {codes : List Int} (h : (kind α, codes) ∈ declaredCodes)
    (n : Int) : n ∈ codes ↔ ∃ a : α, n = code a := by
  have hsame := declaredCodes_unique _ h _ LawfulCoded.declared rfl
  obtain rfl : codes = (all : List α).map code := (Prod.mk.inj hsame).2
  rw [List.mem_map]
  constructor
  · rintro ⟨a, -, rfl⟩
    exact ⟨a, rfl⟩
  · rintro ⟨a, rfl⟩
    exact ⟨a, LawfulCoded.mem_all a, rfl⟩

end Coded
end AppConfig

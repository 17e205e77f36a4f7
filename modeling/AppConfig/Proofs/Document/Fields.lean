import AppConfig.Document.Fields
import AppConfig.Proofs.Journal.Runs
import AppConfig.Proofs.Json.Members
import AppConfig.Proofs.Plan.Codes

/-! # What the readers of fields accept

A reader of a field ends with a value exactly when the document holds that value, written as JSON,
under the key: `Fields.present? o key` is the value of the key with `null` counted as absent.

* `present?_insert_self`, `present?_filter`, `present?_modifyList_self` and their like: what stands
  under a key after a change.
* `text_result_ok`, `code_result_ok`, `natural_result_ok`, `list_result_ok`: required fields.
* `optionalText_result_ok`, `optionalNatural32_result_ok`, `optionalList_result_ok`: optional
  ones, which read nothing exactly where the key is absent.
* `text_journal` and its like: no reader of a field leaves an entry in the journal.
* `text_congr` and its like: a reader of a field is the same run on the same value of its key.
* `failsAt_text` and its like: a reader of a field fails at the key of the field.
-/

namespace AppConfig
set_option autoImplicit false

variable {α β : Type}

theorem asObject_result_ok {v : Json} {o : Members} :
    (asObject v).result = .ok o ↔ v = .object o := by
  cases v <;> simp [asObject]

@[simp] theorem asObject_journal (v : Json) : (asObject v).journal = [] := by
  cases v <;> rfl

theorem asObject_object (o : Members) : asObject (.object o) = pure o := rfl

/-- Two runs in a row leave nothing if neither does. -/
theorem Outcome.bind_journal_nil {x : Outcome α} {f : α → Outcome β} (hx : x.journal = [])
    (hf : ∀ a, (f a).journal = []) : (x >>= f).journal = [] := by
  cases h : x.result with
  | error fault => rw [bind_journal_error h, hx]
  | ok a => rw [bind_journal_ok h, hx, hf a, List.append_nil]

namespace Fields

/-! ## The value of a key -/

theorem present?_eq_none {o : Members} {key : String} :
    present? o key = none ↔ o.get? key = none ∨ o.get? key = some .null := by
  unfold present?
  cases o.get? key with
  | none => simp
  | some v => cases v <;> simp [Json.isNull, Option.filter]

theorem present?_eq_some {o : Members} {key : String} {v : Json} :
    present? o key = some v ↔ o.get? key = some v ∧ v ≠ .null := by
  unfold present?
  cases o.get? key with
  | none => simp
  | some w =>
    rw [Option.filter_eq_some_iff]
    cases v <;> simp [Json.isNull]

/-! ## Changes -/

section Changes
variable {k key : String} {v : Json} {o : Members}

theorem present?_cons_of_ne (h : k ≠ key) (v : Json) (o : Members) :
    present? ((k, v) :: o) key = present? o key := by
  rw [present?, present?, Members.get?, if_neg h]

theorem present?_cons_congr {o' : Members} (h : present? o' key = present? o key)
    (m : String × Json) : present? (m :: o') key = present? (m :: o) key := by
  by_cases hm : m.1 = key
  · rw [present?, present?, Members.get?, Members.get?, if_pos hm, if_pos hm]
  · exact (present?_cons_of_ne hm m.2 o').trans (h.trans (present?_cons_of_ne hm m.2 o).symm)

theorem present?_insert_self (hv : v.isNull = false) (o : Members) :
    present? (o.insert key v) key = some v := by
  rw [present?, Members.get?_insert_self, Option.filter_some, hv]
  rfl

theorem present?_insert_of_ne (h : k ≠ key) (v : Json) (o : Members) :
    present? (o.insert key v) k = present? o k := by
  rw [present?, present?, Members.get?_insert_of_ne h]

theorem present?_modifyList_self (key : String) (g : List Json → List Json) (o : Members) :
    present? (o.modifyList key g) key = (present? o key).map (Json.mapList g) := by
  rw [present?, present?, Members.get?_modifyList_self]
  cases o.get? key with
  | none => rfl
  | some v =>
    rw [Option.map_some, Option.filter_some, Option.filter_some, Json.isNull_mapList]
    split <;> rfl

theorem present?_modifyList_of_ne (h : k ≠ key) (g : List Json → List Json) (o : Members) :
    present? (o.modifyList key g) k = present? o k := by
  rw [present?, present?, Members.get?_modifyList_of_ne h]

/-- Members without a value may go. -/
theorem present?_filter {p : String × Json → Bool} (ho : (o.map Prod.fst).Nodup)
    (hp : ∀ v : Json, v.isNull = false → p (key, v) = true) :
    present? (o.filter p) key = present? o key := by
  rw [present?, present?, Members.get?_filter ho]
  cases o.get? key with
  | none => rfl
  | some v =>
    cases hv : v.isNull with
    | false => simp [Option.filter, hv, hp v hv]
    | true => by_cases hpv : p (key, v) = true <;> simp [Option.filter, hv, hpv]

end Changes

/-! ## Values that have to be there -/

theorem require_result_ok {o : Members} {key : String} {v : Json} :
    (require o key).result = .ok v ↔ present? o key = some v := by
  unfold require
  cases present? o key <;> simp

@[simp] theorem require_journal (o : Members) (key : String) : (require o key).journal = [] := by
  unfold require
  cases present? o key <;> rfl

@[simp] theorem refuse_result (key : String) (shape : Shape) :
    (refuse key shape : Outcome α).result = .error (.wrongShape [.field key] shape.describe) := rfl

/-! ## Texts -/

theorem asText_result_ok {key : String} {v : Json} {s : String} :
    (asText key v).result = .ok s ↔ v = .string s := by
  cases v <;> simp [asText]

@[simp] theorem asText_journal (key : String) (v : Json) : (asText key v).journal = [] := by
  cases v <;> rfl

theorem text_result_ok {o : Members} {key s : String} :
    (text o key).result = .ok s ↔ present? o key = some (.string s) := by
  simp only [text, Outcome.bind_result_ok, require_result_ok, asText_result_ok]
  exact ⟨fun ⟨_, hv, hs⟩ => hs ▸ hv, fun h => ⟨_, h, rfl⟩⟩

@[simp] theorem text_journal (o : Members) (key : String) : (text o key).journal = [] :=
  Outcome.bind_journal_nil (require_journal o key) (asText_journal key)

theorem optionalText_result_ok {o : Members} {key : String} {s : Option String} :
    (optionalText o key).result = .ok s ↔ present? o key = s.map .string := by
  unfold optionalText
  cases present? o key with
  | none => cases s <;> simp
  | some v =>
    rw [Outcome.map_result_ok]
    simp only [asText_result_ok]
    cases s <;> simp

@[simp] theorem optionalText_journal (o : Members) (key : String) :
    (optionalText o key).journal = [] := by
  unfold optionalText
  cases present? o key with
  | none => rfl
  | some v => exact (Outcome.map_journal _ _).trans (asText_journal key v)

/-! ## Numbers -/

theorem asWord_result_ok {key : String} {shape : Shape} {word? : Int → Option α} {v : Json}
    {a : α} : (asWord key shape word? v).result = .ok a ↔ ∃ n, v = .int n ∧ word? n = some a := by
  cases v with
  | int n => cases h : word? n <;> simp [asWord, h]
  | _ => simp [asWord]

@[simp] theorem asWord_journal (key : String) (shape : Shape) (word? : Int → Option α)
    (v : Json) : (asWord key shape word? v).journal = [] := by
  cases v with
  | int n => cases h : word? n <;> simp [asWord, h, refuse]
  | _ => rfl

theorem integer_result_ok {o : Members} {key : String} {n : Int} :
    (integer o key).result = .ok n ↔ present? o key = some (.int n) ∧ IsSigned64 n := by
  simp only [integer, Outcome.bind_result_ok, require_result_ok, asWord_result_ok, int64?]
  constructor
  · rintro ⟨v, hv, m, rfl, hm⟩
    obtain ⟨hsigned, rfl⟩ : IsSigned64 m ∧ m = n := by simpa using hm
    exact ⟨hv, hsigned⟩
  · rintro ⟨hv, hsigned⟩
    exact ⟨_, hv, n, rfl, if_pos hsigned⟩

@[simp] theorem integer_journal (o : Members) (key : String) : (integer o key).journal = [] :=
  Outcome.bind_journal_nil (require_journal o key) (asWord_journal key _ _)

theorem uint64?_eq_some {n : Int} {w : UInt64} : uint64? n = some w ↔ n = w.toNat :=
  ⟨fun h => (toNat_of_uint64? h).symm, fun h => h ▸ uint64?_toNat w⟩

theorem uint32?_eq_some {n : Int} {w : UInt32} : uint32? n = some w ↔ n = w.toNat :=
  ⟨fun h => (toNat_of_uint32? h).symm, fun h => h ▸ uint32?_toNat w⟩

theorem natural_result_ok {o : Members} {key : String} {w : UInt64} :
    (natural o key).result = .ok w ↔ present? o key = some (.int w.toNat) := by
  simp only [natural, Outcome.bind_result_ok, require_result_ok, asWord_result_ok,
    uint64?_eq_some]
  constructor
  · rintro ⟨v, hv, n, rfl, rfl⟩
    exact hv
  · intro hv
    exact ⟨_, hv, _, rfl, rfl⟩

@[simp] theorem natural_journal (o : Members) (key : String) : (natural o key).journal = [] :=
  Outcome.bind_journal_nil (require_journal o key) (asWord_journal key _ _)

theorem optionalNatural32_result_ok {o : Members} {key : String} {w : Option UInt32} :
    (optionalNatural32 o key).result = .ok w ↔
      present? o key = w.map fun w => .int w.toNat := by
  unfold optionalNatural32
  cases present? o key with
  | none => cases w <;> simp
  | some v =>
    rw [Outcome.map_result_ok]
    simp only [asWord_result_ok, uint32?_eq_some]
    cases w with
    | none => simp
    | some w =>
      simp only [Option.some.injEq, Option.map_some]
      constructor
      · rintro ⟨a, ⟨n, rfl, rfl⟩, rfl⟩
        rfl
      · rintro rfl
        exact ⟨w, ⟨_, rfl, rfl⟩, rfl⟩

@[simp] theorem optionalNatural32_journal (o : Members) (key : String) :
    (optionalNatural32 o key).journal = [] := by
  unfold optionalNatural32
  cases present? o key with
  | none => rfl
  | some v => exact (Outcome.map_journal _ _).trans (asWord_journal key _ _ v)

theorem code_result_ok [Coded α] [LawfulCoded α] {o : Members} {key : String} {a : α} :
    (code α o key).result = .ok a ↔ present? o key = some (.int (Coded.code a)) := by
  simp only [code, Outcome.bind_result_ok, integer_result_ok]
  constructor
  · rintro ⟨n, ⟨hv, -⟩, hmember⟩
    cases hn : Coded.ofCode? α n with
    | none => simp [hn] at hmember
    | some b =>
      obtain rfl : b = a := by simpa [hn] using hmember
      rw [hv, Coded.ofCode?_eq_some.mp hn]
  · intro hv
    refine ⟨_, ⟨hv, LawfulCoded.code_signed a⟩, ?_⟩
    rw [Coded.ofCode?_eq_some.mpr rfl]
    rfl

@[simp] theorem code_journal [Coded α] (o : Members) (key : String) :
    (code α o key).journal = [] := by
  apply Outcome.bind_journal_nil (integer_journal o key)
  intro n
  cases Coded.ofCode? α n <;> rfl

/-! ## Lists -/

theorem asList_result_ok {key : String} {v : Json} {items : List Json} :
    (asList key v).result = .ok items ↔ v = .list items := by
  cases v <;> simp [asList]

@[simp] theorem asList_journal (key : String) (v : Json) : (asList key v).journal = [] := by
  cases v <;> rfl

theorem list_result_ok {o : Members} {key : String} {items : List Json} :
    (list o key).result = .ok items ↔ present? o key = some (.list items) := by
  simp only [list, Outcome.bind_result_ok, require_result_ok, asList_result_ok]
  exact ⟨fun ⟨_, hv, hs⟩ => hs ▸ hv, fun h => ⟨_, h, rfl⟩⟩

@[simp] theorem list_journal (o : Members) (key : String) : (list o key).journal = [] :=
  Outcome.bind_journal_nil (require_journal o key) (asList_journal key)

theorem optionalList_result_ok {o : Members} {key : String} {items : List Json} :
    (optionalList o key).result = .ok items ↔
      ∃ declared : Option (List Json),
        present? o key = declared.map .list ∧ items = declared.getD [] := by
  unfold optionalList
  constructor
  · intro h
    cases hv : present? o key with
    | none =>
      rw [hv] at h
      exact ⟨none, rfl, by simpa using h.symm⟩
    | some v =>
      rw [hv] at h
      exact ⟨some items, congrArg some (asList_result_ok.mp h), rfl⟩
  · rintro ⟨declared, hv, rfl⟩
    rw [hv]
    cases declared <;> simp [asList]

@[simp] theorem optionalList_journal (o : Members) (key : String) :
    (optionalList o key).journal = [] := by
  unfold optionalList
  cases present? o key with
  | none => rfl
  | some v => exact asList_journal key v

theorem list_of_present {o : Members} {key : String} {items : List Json}
    (h : present? o key = some (.list items)) : list o key = pure items := by
  simp [list, require, h, asList]

theorem optionalList_of_present {o : Members} {key : String} {items : List Json}
    (h : present? o key = some (.list items)) : optionalList o key = pure items := by
  simp [optionalList, h, asList]

/-! ## The same value under a key

A reader of a field asks for nothing but the value of the key. -/

section Same
variable {o o' : Members} {key : String} (h : present? o' key = present? o key)
include h

theorem text_congr : text o' key = text o key := by
  simp only [text, require, h]

theorem optionalText_congr : optionalText o' key = optionalText o key := by
  simp only [optionalText, h]

theorem optionalNatural32_congr : optionalNatural32 o' key = optionalNatural32 o key := by
  simp only [optionalNatural32, h]

theorem code_congr (α : Type) [Coded α] : code α o' key = code α o key := by
  simp only [code, integer, require, h]

theorem list_congr : list o' key = list o key := by
  simp only [list, require, h]

end Same

/-! ## Where readers of fields fail -/

/-- The run fails at the key if at all. -/
def FailsAt (key : String) (x : Outcome α) : Prop :=
  Outcome.FaultsIn (fun fault => fault.location? = some [.field key]) x

section Failing
open Outcome
variable {o : Members} {key : String}

theorem failsAt_require : FailsAt key (require o key) := by
  unfold require
  cases present? o key with
  | some v => exact .pure v
  | none => exact .fail rfl

theorem failsAt_refuse {shape : Shape} : FailsAt key (refuse key shape : Outcome α) := .fail rfl

theorem failsAt_asText (v : Json) : FailsAt key (asText key v) := by
  cases v with
  | string s => exact .pure s
  | _ => exact failsAt_refuse

theorem failsAt_asList (v : Json) : FailsAt key (asList key v) := by
  cases v with
  | list items => exact .pure items
  | _ => exact failsAt_refuse

theorem failsAt_asWord {shape : Shape} {word? : Int → Option α} (v : Json) :
    FailsAt key (asWord key shape word? v) := by
  cases v with
  | int n =>
    rw [asWord]
    split
    · exact .pure _
    · exact failsAt_refuse
  | _ => exact failsAt_refuse

theorem failsAt_text : FailsAt key (text o key) := .bind failsAt_require fun v _ => failsAt_asText v

theorem failsAt_optionalText : FailsAt key (optionalText o key) := by
  unfold optionalText
  cases present? o key with
  | some v => exact .map some (failsAt_asText v)
  | none => exact .pure none

theorem failsAt_optionalNatural32 : FailsAt key (optionalNatural32 o key) := by
  unfold optionalNatural32
  cases present? o key with
  | some v => exact .map some (failsAt_asWord v)
  | none => exact .pure none

theorem failsAt_natural : FailsAt key (natural o key) :=
  .bind failsAt_require fun v _ => failsAt_asWord v

theorem failsAt_code (α : Type) [Coded α] : FailsAt key (code α o key) := by
  refine .bind (.bind failsAt_require fun v _ => failsAt_asWord v) fun n _ => ?_
  cases Coded.ofCode? α n with
  | some a => exact .pure a
  | none => exact .fail rfl

theorem failsAt_list : FailsAt key (list o key) := .bind failsAt_require fun v _ => failsAt_asList v

theorem failsAt_optionalList : FailsAt key (optionalList o key) := by
  unfold optionalList
  cases present? o key with
  | some v => exact failsAt_asList v
  | none => exact .pure []

end Failing

/-! ## Objects of a list -/

def membersOf : Json → Members
  | .object o => o
  | _ => []

/-- The objects of the list under a key; none where the key is absent. -/
def objectsAt (o : Members) (key : String) : List Members :=
  match present? o key with
  | some (.list items) => items.map membersOf
  | _ => []

end Fields
end AppConfig

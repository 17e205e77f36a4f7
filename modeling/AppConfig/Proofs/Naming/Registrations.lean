import AppConfig.Proofs.Naming.Repeated
import AppConfig.Proofs.Text.Utf8

/-! # Names registered one after the other

A caller hands names to its registry in any order, and goes on after a name that is refused.

* `Registry.registering`: one call, on the registry of the caller. `Registry.step` is the registry
  after it and its answer, `Registry.after` the registry after calls in a row.
* `Registry.step_valid`, `Registry.step_invalid`: what one call does.
* `Registry.Accepted`: the call at an index has been accepted, with this name.
* `Below`: one name is before the other by the octets of their texts.
* `Registry.registrations`: what any sequence of calls leaves.
-/

namespace AppConfig
set_option autoImplicit false

/-! ## Octets of names -/

/-- The octets of the first name are before those of the second. -/
def Below (name name' : String) : Prop :=
  Text.Utf8.encode name.toList < Text.Utf8.encode name'.toList

instance (name name' : String) : Decidable (Below name name') :=
  inferInstanceAs (Decidable (Text.Utf8.encode name.toList < Text.Utf8.encode name'.toList))

/-- All characters of the text are ASCII. -/
def IsAscii (text : List Char) : Prop := ∀ c ∈ text, c.val.toNat ≤ 0x7F

theorem isAscii_of_isPart {c : Char} (h : Identifier.isPart c = true) : c.val.toNat ≤ 0x7F := by
  simp only [Identifier.isPart, Identifier.isStart, Bool.or_eq_true, Bool.and_eq_true,
    decide_eq_true_eq] at h
  have hle : ∀ d : Char, d.val.toNat ≤ 0x7F → c ≤ d → c.val.toNat ≤ 0x7F :=
    fun d hd hcd => (UInt32.le_iff_toNat_le.mp hcd).trans hd
  rcases h with ((⟨-, h⟩ | ⟨-, h⟩) | rfl) | ⟨-, h⟩
  · exact hle 'Z' (by decide) h
  · exact hle 'z' (by decide) h
  · decide
  · exact hle '9' (by decide) h

theorem isAscii_of_isValid {name : String} (h : Identifier.isValid name = true) :
    IsAscii name.toList := by
  have hform : Identifier.hasForm name.toList = true := by
    rw [Identifier.isValid, Bool.and_eq_true] at h
    exact h.1
  intro c hc
  cases hname : name.toList with
  | nil =>
    rw [hname] at hc
    cases hc
  | cons first rest =>
    rw [hname] at hform hc
    obtain ⟨hfirst, hrest⟩ := Bool.and_eq_true_iff.mp hform
    apply isAscii_of_isPart
    rcases List.mem_cons.mp hc with rfl | hc
    · rw [Identifier.isPart, hfirst, Bool.true_or]
    · exact List.all_eq_true.mp hrest c hc

theorem ofNat_toNat_lt {c d : Char} (hd : d.val.toNat ≤ 0x7F) (h : c < d) :
    UInt8.ofNat c.val.toNat < UInt8.ofNat d.val.toNat := by
  have hcd : c.val.toNat < d.val.toNat := UInt32.lt_iff_toNat_lt.mp h
  have hsize : d.val.toNat < UInt8.size := Nat.lt_of_le_of_lt hd (by decide)
  rw [UInt8.lt_iff_toNat_lt, UInt8.toNat_ofNat_of_lt' (hcd.trans hsize),
    UInt8.toNat_ofNat_of_lt' hsize]
  exact hcd

/-- ASCII texts are ordered as their octets are. -/
theorem encode_lt_encode {text text' : List Char} (hascii : IsAscii text) (hascii' : IsAscii text')
    (h : text < text') : Text.Utf8.encode text < Text.Utf8.encode text' := by
  -- An ASCII character is one octet, so the place where the texts part is where the octets do.
  induction h with
  | nil =>
    rw [Text.Utf8.encode_cons, Text.Utf8.encodeChar_one (hascii' _ List.mem_cons_self)]
    exact .nil
  | rel hcd =>
    have hd := hascii' _ List.mem_cons_self
    rw [Text.Utf8.encode_cons, Text.Utf8.encode_cons,
      Text.Utf8.encodeChar_one (hascii _ List.mem_cons_self), Text.Utf8.encodeChar_one hd]
    exact .rel (ofNat_toNat_lt hd hcd)
  | cons _ ih =>
    have hrest := ih (fun c hc => hascii c (List.mem_cons_of_mem _ hc))
      fun c hc => hascii' c (List.mem_cons_of_mem _ hc)
    rw [Text.Utf8.encode_cons, Text.Utf8.encode_cons]
    exact List.append_left_lt hrest

theorem below_of_lt {name name' : String} (h : Identifier.isValid name = true)
    (h' : Identifier.isValid name' = true) (hlt : name < name') : Below name name' :=
  encode_lt_encode (isAscii_of_isValid h) (isAscii_of_isValid h') (String.lt_iff.mp hlt)

namespace Registry

/-! ## Calls -/

structure Call where
  name : String
  location : Location
  deriving DecidableEq

/-- One call on the registry of the caller; a fault leaves the registry as it is. -/
def registering (c : Call) : ExceptT Fault (StateM Registry) Unit := do
  let registry : Registry ← get
  set (← ExceptT.mk (pure (registry.register c.name c.location)))

/-- The registry after a call, and its answer. -/
def step (r : Registry) (c : Call) : Registry × Except Fault Unit :=
  ((registering c).run.run r).swap

/-- The registry after calls in a row, whatever their answers. -/
def after (r : Registry) (calls : List Call) : Registry :=
  calls.foldl (fun r c => (r.step c).1) r

/-- The call at the index hands over the name and is answered with success. -/
def Accepted (calls : List Call) (i : Nat) (name : String) : Prop :=
  ∃ c, calls[i]? = some c ∧ c.name = name ∧ ((empty.after (calls.take i)).step c).2 = .ok ()

variable {r : Registry} {c : Call} {calls calls' : List Call} {name : String} {i : Nat}

/-! ## One call -/

theorem step_eq (r : Registry) (c : Call) :
    r.step c = match r.register c.name c.location with
      | .ok next => (next, .ok ())
      | .error fault => (r, .error fault) := by
  have hrun : (registering c).run.run r =
      (ExceptT.mk (pure (r.register c.name c.location)) >>= set :
        ExceptT Fault (StateM Registry) Unit).run.run r := rfl
  rw [step, hrun]
  cases r.register c.name c.location with
  | ok next => rfl
  | error fault => rfl

theorem step_valid (h : Identifier.isValid c.name = true) :
    r.step c = (⟨r.identifiers ++ [c.name]⟩, .ok ()) := by
  rw [step_eq, register, if_pos h]

theorem step_invalid (h : ¬ Identifier.isValid c.name = true) :
    r.step c = (r, .error (.invalidIdentifier c.location c.name)) := by
  rw [step_eq, register, if_neg h]

/-- What a call adds: its name, if that is valid. -/
def added (c : Call) : List String := if Identifier.isValid c.name then [c.name] else []

theorem mem_added : name ∈ added c ↔ c.name = name ∧ Identifier.isValid c.name = true := by
  by_cases h : Identifier.isValid c.name = true
  · simp [added, h, eq_comm]
  · simp [added, h]

theorem nodup_added (c : Call) : (added c).Nodup := by
  unfold added
  split
  · exact List.nodup_singleton c.name
  · exact List.nodup_nil

theorem step_identifiers (r : Registry) (c : Call) :
    (r.step c).1.identifiers = r.identifiers ++ added c := by
  by_cases h : Identifier.isValid c.name = true
  · rw [step_valid h, added, if_pos h]
  · rw [step_invalid h, added, if_neg h, List.append_nil]

theorem step_answer : (r.step c).2 = .ok () ↔ Identifier.isValid c.name = true := by
  by_cases h : Identifier.isValid c.name = true
  · simp [step_valid h, h]
  · simp [step_invalid h, h]

/-! ## Calls in a row -/

theorem after_identifiers (r : Registry) (calls : List Call) :
    (r.after calls).identifiers = r.identifiers ++ calls.flatMap added := by
  -- The registry is general, since the calls behind the first start from the one that it leaves.
  induction calls generalizing r with
  | nil => exact (List.append_nil _).symm
  | cons c rest ih =>
    have hcons : r.after (c :: rest) = (r.step c).1.after rest := rfl
    rw [hcons, ih, step_identifiers, List.flatMap_cons, List.append_assoc]

theorem flatMap_added (calls : List Call) :
    calls.flatMap added = (calls.map Call.name).filter Identifier.isValid := by
  induction calls with
  | nil => rfl
  | cons c rest ih =>
    rw [List.flatMap_cons, ih, List.map_cons, List.filter_cons, added]
    split <;> rfl

theorem empty_after (calls : List Call) : (empty.after calls).identifiers = calls.flatMap added :=
  after_identifiers empty calls

theorem accepted_iff :
    Accepted calls i name ↔ ∃ c, calls[i]? = some c ∧ name ∈ added c := by
  constructor
  · rintro ⟨c, hc, rfl, hanswer⟩
    exact ⟨c, hc, mem_added.mpr ⟨rfl, step_answer.mp hanswer⟩⟩
  · rintro ⟨c, hc, hname⟩
    obtain ⟨rfl, hvalid⟩ := mem_added.mp hname
    exact ⟨c, hc, rfl, step_answer.mpr hvalid⟩

theorem mem_empty_after :
    name ∈ (empty.after calls).identifiers ↔ ∃ i, Accepted calls i name := by
  rw [empty_after, List.mem_flatMap]
  constructor
  · rintro ⟨c, hc, hname⟩
    obtain ⟨i, hi⟩ := List.mem_iff_getElem?.mp hc
    exact ⟨i, accepted_iff.mpr ⟨c, hi, hname⟩⟩
  · rintro ⟨i, haccepted⟩
    obtain ⟨c, hi, hname⟩ := accepted_iff.mp haccepted
    exact ⟨c, List.mem_of_getElem? hi, hname⟩

theorem isValid_of_mem (h : name ∈ (empty.after calls).identifiers) :
    Identifier.isValid name = true := by
  rw [empty_after, flatMap_added] at h
  exact (List.mem_filter.mp h).2

/-! ## Repeated names -/

theorem mem_duplicates : name ∈ (empty.after calls).duplicates ↔
    ∃ i j, i < j ∧ Accepted calls i name ∧ Accepted calls j name := by
  rw [duplicates, mem_repeated, empty_after, two_le_count_flatMap fun c _ => nodup_added c]
  constructor
  · rintro ⟨i, j, a, b, hij, ha, hb, hna, hnb⟩
    exact ⟨i, j, hij, accepted_iff.mpr ⟨a, ha, hna⟩, accepted_iff.mpr ⟨b, hb, hnb⟩⟩
  · rintro ⟨i, j, hij, hi, hj⟩
    obtain ⟨a, ha, hna⟩ := accepted_iff.mp hi
    obtain ⟨b, hb, hnb⟩ := accepted_iff.mp hj
    exact ⟨i, j, a, b, hij, ha, hb, hna, hnb⟩

theorem pairwise_duplicates (calls : List Call) :
    (empty.after calls).duplicates.Pairwise Below := by
  have hvalid : ∀ n ∈ (empty.after calls).duplicates, Identifier.isValid n = true := by
    intro n hn
    exact isValid_of_mem (List.count_pos_iff.mp (Nat.zero_lt_of_lt (mem_repeated.mp hn)))
  refine (pairwise_ascending _).imp_of_mem fun {n n'} hn hn' hlt => ?_
  exact below_of_lt (hvalid n hn) (hvalid n' hn') hlt

theorem duplicates_perm (h : calls'.Perm calls) :
    (empty.after calls').duplicates = (empty.after calls).duplicates := by
  refine eq_repeated_iff.mpr ⟨pairwise_ascending _, fun n => ?_⟩
  rw [duplicates, mem_repeated, empty_after, empty_after, (h.flatMap_right added).count_eq]

/-! ## Any sequence of calls -/

/-- After any sequence of calls on a new registry: the names are the valid ones that were handed
over, in order; each call was answered by its own name and left the registry alone if it was
refused; the registry contains what was accepted, and its duplicates are what was accepted twice, in
strictly ascending order of octets, whatever the order of the calls; the check fails with them
unless there are none. -/
theorem registrations (calls : List Call) :
    (empty.after calls).identifiers = (calls.map Call.name).filter Identifier.isValid ∧
    (∀ i c, calls[i]? = some c →
      (empty.after (calls.take i)).step c =
        if Identifier.isValid c.name then
          (⟨(empty.after (calls.take i)).identifiers ++ [c.name]⟩, .ok ())
        else (empty.after (calls.take i), .error (.invalidIdentifier c.location c.name))) ∧
    (∀ name, (empty.after calls).contains name = true ↔ ∃ i, Accepted calls i name) ∧
    (empty.after calls).duplicates.Pairwise Below ∧
    (∀ name, name ∈ (empty.after calls).duplicates ↔
      ∃ i j, i < j ∧ Accepted calls i name ∧ Accepted calls j name) ∧
    (∀ calls', calls'.Perm calls →
      (empty.after calls').duplicates = (empty.after calls).duplicates) ∧
    (∀ location, (empty.after calls).check location =
      if (empty.after calls).identifiers.Nodup then .ok ()
      else .error (.duplicateIdentifiers location (empty.after calls).duplicates)) := by
  refine ⟨(empty_after calls).trans (flatMap_added calls), ?_, ?_, pairwise_duplicates calls,
    fun name => mem_duplicates, fun calls' => duplicates_perm, ?_⟩
  · intro i c _
    split
    · next h => exact step_valid h
    · next h => exact step_invalid h
  · intro name
    rw [contains, List.contains_iff_mem]
    exact mem_empty_after
  · intro location
    split
    · next h => exact check_eq_ok.mpr h
    · next h => exact check_eq_error.mpr ⟨h, rfl⟩

/-- Two names, each handed over twice, with a name between them that is refused. -/
def mixedCalls : List Call :=
  [⟨"y", .root⟩, ⟨"x", .root⟩, ⟨"1bad", [.field "classname"]⟩, ⟨"y", .root⟩, ⟨"x", .root⟩]

theorem registrations_mixedCalls :
    mixedCalls[2]? = some ⟨"1bad", [.field "classname"]⟩ ∧
    (empty.after (mixedCalls.take 2)).step ⟨"1bad", [.field "classname"]⟩ =
      (empty.after (mixedCalls.take 2),
        .error (.invalidIdentifier [.field "classname"] "1bad")) ∧
    (empty.after mixedCalls).identifiers = ["y", "x", "y", "x"] ∧
    mixedCalls.reverse.Perm mixedCalls ∧
    (empty.after mixedCalls.reverse).duplicates = (empty.after mixedCalls).duplicates := by
  obtain ⟨hnames, hstep, -, -, -, hperm, -⟩ := registrations mixedCalls
  have hbad : mixedCalls[2]? = some ⟨"1bad", [.field "classname"]⟩ := rfl
  have hinvalid : ¬ Identifier.isValid "1bad" = true := by decide
  refine ⟨hbad, (hstep 2 _ hbad).trans (if_neg hinvalid), hnames.trans (by decide), ?_, ?_⟩
  · exact List.reverse_perm mixedCalls
  · exact hperm _ (List.reverse_perm mixedCalls)

end Registry
end AppConfig

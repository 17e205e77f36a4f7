/-! # The integers of machine words

* `IsSigned64`, `IsUnsigned64`, `IsUnsigned32`: the integers that a word holds.
* `int64?`, `uint64?`, `uint32?`: an integer as a word, if one holds it.
-/

namespace AppConfig
set_option autoImplicit false

/-- A signed word of 64 bits holds the integer. -/
def IsSigned64 (n : Int) : Prop := -9223372036854775808 ≤ n ∧ n < 9223372036854775808

/-- An unsigned word of 64 bits holds the integer. -/
def IsUnsigned64 (n : Int) : Prop := 0 ≤ n ∧ n < 18446744073709551616

/-- An unsigned word of 32 bits holds the integer. -/
def IsUnsigned32 (n : Int) : Prop := 0 ≤ n ∧ n < 4294967296

instance (n : Int) : Decidable (IsSigned64 n) := inferInstanceAs (Decidable (_ ∧ _))

instance (n : Int) : Decidable (IsUnsigned64 n) := inferInstanceAs (Decidable (_ ∧ _))

instance (n : Int) : Decidable (IsUnsigned32 n) := inferInstanceAs (Decidable (_ ∧ _))

/-- An integer that a signed word of 64 bits holds. -/
def int64? (n : Int) : Option Int := if IsSigned64 n then some n else none

/-- An integer as an unsigned word of 64 bits. -/
def uint64? (n : Int) : Option UInt64 :=
  if IsUnsigned64 n then some (UInt64.ofNat n.toNat) else none

/-- An integer as an unsigned word of 32 bits. -/
def uint32? (n : Int) : Option UInt32 :=
  if IsUnsigned32 n then some (UInt32.ofNat n.toNat) else none

theorem uint64?_toNat (w : UInt64) : uint64? w.toNat = some w := by
  have h : IsUnsigned64 w.toNat := by
    have := w.toNat_lt
    simp only [IsUnsigned64]
    omega
  simp [uint64?, h]

theorem uint32?_toNat (w : UInt32) : uint32? w.toNat = some w := by
  have h : IsUnsigned32 w.toNat := by
    have := w.toNat_lt
    simp only [IsUnsigned32]
    omega
  simp [uint32?, h]

theorem toNat_of_uint64? {n : Int} {w : UInt64} (h : uint64? n = some w) : (w.toNat : Int) = n := by
  unfold uint64? at h
  split at h
  · next hn =>
    obtain ⟨low, high⟩ := hn
    obtain rfl := Option.some.inj h
    rw [UInt64.toNat_ofNat_of_lt' (by simp only [UInt64.size]; omega)]
    omega
  · cases h

theorem toNat_of_uint32? {n : Int} {w : UInt32} (h : uint32? n = some w) : (w.toNat : Int) = n := by
  unfold uint32? at h
  split at h
  · next hn =>
    obtain ⟨low, high⟩ := hn
    obtain rfl := Option.some.inj h
    rw [UInt32.toNat_ofNat_of_lt' (by simp only [UInt32.size]; omega)]
    omega
  · cases h

end AppConfig

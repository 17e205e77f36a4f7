import Mathlib.Tactic.SplitIfs
import AppConfig.Text.Utf8

/-! # Octets and the text that they encode

* `encode`: the octets of a text, character by character.
* `IsCharacter`: the octets of one character. `IsCharacter.exists_char`: they are decoded to it;
  `isCharacter_encodeChar`: every character is written so.
* `decode_eq_ok`: octets are decoded to a text exactly if they are those of the text.
-/

namespace AppConfig.Text.Utf8
set_option autoImplicit false

/-- The octets of a text. -/
def encode (text : List Char) : List UInt8 := text.flatMap String.utf8EncodeChar

theorem encode_cons (c : Char) (text : List Char) :
    encode (c :: text) = String.utf8EncodeChar c ++ encode text := List.flatMap_cons

/-! ## Octets by their numbers -/

section Octets
variable {b s : UInt8} {n : Nat}

theorem isTail_iff : isTail b = true ↔ 0x80 ≤ b.toNat ∧ b.toNat ≤ 0xBF := by
  simp [isTail, UInt8.le_iff_toNat_le]

/-- After these four leads the range of the second octet is cut on one side. -/
theorem secondAllowed_iff : secondAllowed b s = true ↔ 0x80 ≤ s.toNat ∧ s.toNat ≤ 0xBF ∧
    (b.toNat = 0xE0 → 0xA0 ≤ s.toNat) ∧ (b.toNat = 0xED → s.toNat ≤ 0x9F) ∧
    (b.toNat = 0xF0 → 0x90 ≤ s.toNat) ∧ (b.toNat = 0xF4 → s.toNat ≤ 0x8F) := by
  unfold secondAllowed
  split_ifs <;> simp_all [isTail_iff, ← UInt8.toNat_inj, UInt8.le_iff_toNat_le] <;> omega

theorem width_eq_some : width b = some n ↔
    n = 1 ∧ b.toNat ≤ 0x7F ∨ n = 2 ∧ 0xC2 ≤ b.toNat ∧ b.toNat ≤ 0xDF ∨
    n = 3 ∧ 0xE0 ≤ b.toNat ∧ b.toNat ≤ 0xEF ∨ n = 4 ∧ 0xF0 ≤ b.toNat ∧ b.toNat ≤ 0xF4 := by
  unfold width
  split_ifs <;> simp_all [UInt8.le_iff_toNat_le] <;> omega

end Octets

/-! ## Octets of one character -/

section Characters
variable {c : Char} {b s t u : UInt8} {n : Nat}

theorem toNat_charOfNat (h : n < 0xD800 ∨ 0xDFFF < n ∧ n < 0x110000) :
    (Char.ofNat n).val.toNat = n := by
  rw [Char.ofNat, dif_pos h]
  rfl

theorem encodeChar_one (h : c.val.toNat ≤ 0x7F) :
    String.utf8EncodeChar c = [UInt8.ofNat c.val.toNat] := by
  simp only [String.utf8EncodeChar, if_pos h]

theorem encodeChar_two (h : 0x7F < c.val.toNat) (h' : c.val.toNat ≤ 0x7FF) :
    String.utf8EncodeChar c = [UInt8.ofNat (c.val.toNat / 64 % 32 + 0xC0),
      UInt8.ofNat (c.val.toNat % 64 + 0x80)] := by
  simp only [String.utf8EncodeChar, if_neg (Nat.not_le.mpr h), if_pos h']

theorem encodeChar_three (h : 0x7FF < c.val.toNat) (h' : c.val.toNat ≤ 0xFFFF) :
    String.utf8EncodeChar c = [UInt8.ofNat (c.val.toNat / 4096 % 16 + 0xE0),
      UInt8.ofNat (c.val.toNat / 64 % 64 + 0x80), UInt8.ofNat (c.val.toNat % 64 + 0x80)] := by
  have hmore : ¬ c.val.toNat ≤ 0x7F := by omega
  simp only [String.utf8EncodeChar, if_neg hmore, if_neg (Nat.not_le.mpr h), if_pos h']

theorem encodeChar_four (h : 0xFFFF < c.val.toNat) :
    String.utf8EncodeChar c = [UInt8.ofNat (c.val.toNat / 262144 % 8 + 0xF0),
      UInt8.ofNat (c.val.toNat / 4096 % 64 + 0x80), UInt8.ofNat (c.val.toNat / 64 % 64 + 0x80),
      UInt8.ofNat (c.val.toNat % 64 + 0x80)] := by
  have hone : ¬ c.val.toNat ≤ 0x7F := by omega
  have htwo : ¬ c.val.toNat ≤ 0x7FF := by omega
  simp only [String.utf8EncodeChar, if_neg hone, if_neg htwo, if_neg (Nat.not_le.mpr h)]

theorem ofNat_eq (h : n = b.toNat) : UInt8.ofNat n = b := h ▸ UInt8.ofNat_toNat

theorem encodeChar_of_one (hb : width b = some 1) :
    String.utf8EncodeChar (Char.ofNat b.toNat) = [b] := by
  have hlead : b.toNat ≤ 0x7F := by
    have hwidth := width_eq_some.mp hb
    omega
  have hvalue : (Char.ofNat b.toNat).val.toNat = b.toNat := toNat_charOfNat (by omega)
  rw [encodeChar_one (by omega), hvalue, UInt8.ofNat_toNat]

theorem encodeChar_of_two (hb : width b = some 2) (hs : isTail s = true) :
    String.utf8EncodeChar (Char.ofNat (b.toNat % 32 * 64 + payload s)) = [b, s] := by
  have hlead : 0xC2 ≤ b.toNat ∧ b.toNat ≤ 0xDF := by
    have hwidth := width_eq_some.mp hb
    omega
  have htail := isTail_iff.mp hs
  unfold payload
  generalize hn : b.toNat % 32 * 64 + s.toNat % 64 = n
  have hvalue : (Char.ofNat n).val.toNat = n := toNat_charOfNat (by omega)
  rw [encodeChar_two (by omega) (by omega), hvalue, ofNat_eq (b := b) (by omega),
    ofNat_eq (b := s) (by omega)]

theorem encodeChar_of_three (hb : width b = some 3) (hs : secondAllowed b s = true)
    (ht : isTail t = true) :
    String.utf8EncodeChar (Char.ofNat ((b.toNat % 16 * 64 + payload s) * 64 + payload t)) =
      [b, s, t] := by
  have hlead : 0xE0 ≤ b.toNat ∧ b.toNat ≤ 0xEF := by
    have hwidth := width_eq_some.mp hb
    omega
  have hsecond := secondAllowed_iff.mp hs
  have htail := isTail_iff.mp ht
  unfold payload
  -- The second octet keeps the number off the surrogates and above the numbers of two octets.
  generalize hn : (b.toNat % 16 * 64 + s.toNat % 64) * 64 + t.toNat % 64 = n
  have hvalue : (Char.ofNat n).val.toNat = n := toNat_charOfNat (by omega)
  rw [encodeChar_three (by omega) (by omega), hvalue, ofNat_eq (b := b) (by omega),
    ofNat_eq (b := s) (by omega), ofNat_eq (b := t) (by omega)]

theorem encodeChar_of_four (hb : width b = some 4) (hs : secondAllowed b s = true)
    (ht : isTail t = true) (hu : isTail u = true) :
    String.utf8EncodeChar (Char.ofNat
      (((b.toNat % 8 * 64 + payload s) * 64 + payload t) * 64 + payload u)) = [b, s, t, u] := by
  have hlead : 0xF0 ≤ b.toNat ∧ b.toNat ≤ 0xF4 := by
    have hwidth := width_eq_some.mp hb
    omega
  have hsecond := secondAllowed_iff.mp hs
  have hthird := isTail_iff.mp ht
  have htail := isTail_iff.mp hu
  unfold payload
  generalize hn : ((b.toNat % 8 * 64 + s.toNat % 64) * 64 + t.toNat % 64) * 64 + u.toNat % 64 = n
  have hvalue : (Char.ofNat n).val.toNat = n := toNat_charOfNat (by omega)
  rw [encodeChar_four (by omega), hvalue, ofNat_eq (b := b) (by omega),
    ofNat_eq (b := s) (by omega), ofNat_eq (b := t) (by omega), ofNat_eq (b := u) (by omega)]

/-! ## One step of decoding -/

/-- The octets of one character: a lead, and as many octets after it as its width asks for. -/
inductive IsCharacter : List UInt8 → Prop
  | one {b : UInt8} (lead : width b = some 1) : IsCharacter [b]
  | two {b s : UInt8} (lead : width b = some 2) (second : isTail s = true) : IsCharacter [b, s]
  | three {b s t : UInt8} (lead : width b = some 3) (second : secondAllowed b s = true)
    (third : isTail t = true) : IsCharacter [b, s, t]
  | four {b s t u : UInt8} (lead : width b = some 4) (second : secondAllowed b s = true)
    (third : isTail t = true) (fourth : isTail u = true) : IsCharacter [b, s, t, u]

/-- The octets of a character are decoded to it. -/
theorem IsCharacter.exists_char {octets : List UInt8} (h : IsCharacter octets) :
    ∃ c, String.utf8EncodeChar c = octets ∧ ∀ start rest, decodeFrom start (octets ++ rest) =
      (decodeFrom (start + octets.length) rest).map (c :: ·) := by
  cases h with
  | one lead =>
    refine ⟨_, encodeChar_of_one lead, fun start rest => ?_⟩
    rw [List.singleton_append, decodeFrom.eq_def]
    simp only [lead, List.length_singleton]
  | two lead second =>
    refine ⟨_, encodeChar_of_two lead second, fun start rest => ?_⟩
    simp only [List.cons_append, List.nil_append, decodeFrom, lead, second, if_true,
      List.length_cons, List.length_nil]
  | three lead second third =>
    refine ⟨_, encodeChar_of_three lead second third, fun start rest => ?_⟩
    simp [decodeFrom, lead, second, third]
  | four lead second third fourth =>
    refine ⟨_, encodeChar_of_four lead second third fourth, fun start rest => ?_⟩
    simp [decodeFrom, lead, second, third, fourth]

/-- Every character is written by such octets. -/
theorem isCharacter_encodeChar (c : Char) : IsCharacter (String.utf8EncodeChar c) := by
  have hvalid : c.val.toNat < 0xD800 ∨ 0xDFFF < c.val.toNat ∧ c.val.toNat < 0x110000 := c.valid
  have hoctet : ∀ n, n < 256 → (UInt8.ofNat n).toNat = n := fun n => UInt8.toNat_ofNat_of_lt'
  by_cases hone : c.val.toNat ≤ 0x7F
  · rw [encodeChar_one hone]
    have hb := hoctet c.val.toNat (by omega)
    exact .one (width_eq_some.mpr (by omega))
  have hlast := hoctet (c.val.toNat % 64 + 0x80) (by omega)
  by_cases htwo : c.val.toNat ≤ 0x7FF
  · rw [encodeChar_two (by omega) htwo]
    have hb := hoctet (c.val.toNat / 64 % 32 + 0xC0) (by omega)
    exact .two (width_eq_some.mpr (by omega)) (isTail_iff.mpr (by omega))
  have hmiddle := hoctet (c.val.toNat / 64 % 64 + 0x80) (by omega)
  by_cases hthree : c.val.toNat ≤ 0xFFFF
  · rw [encodeChar_three (by omega) hthree]
    have hb := hoctet (c.val.toNat / 4096 % 16 + 0xE0) (by omega)
    exact .three (width_eq_some.mpr (by omega)) (secondAllowed_iff.mpr (by omega))
      (isTail_iff.mpr (by omega))
  · rw [encodeChar_four (by omega)]
    have hb := hoctet (c.val.toNat / 262144 % 8 + 0xF0) (by omega)
    have hs := hoctet (c.val.toNat / 4096 % 64 + 0x80) (by omega)
    exact .four (width_eq_some.mpr (by omega)) (secondAllowed_iff.mpr (by omega))
      (isTail_iff.mpr (by omega)) (isTail_iff.mpr (by omega))

end Characters

theorem encodeChar_injective {c d : Char}
    (h : String.utf8EncodeChar c = String.utf8EncodeChar d) : c = d := by
  have hstring : String.ofList [c] = String.ofList [d] := by
    rw [← String.toByteArray_inj, String.toByteArray_ofList, String.toByteArray_ofList,
      List.utf8Encode_singleton, List.utf8Encode_singleton, h]
  simpa using String.ofList_injective hstring

theorem decodeFrom_encodeChar (c : Char) (start : Nat) (rest : List UInt8) :
    decodeFrom start (String.utf8EncodeChar c ++ rest) =
      (decodeFrom (start + (String.utf8EncodeChar c).length) rest).map (c :: ·) := by
  obtain ⟨d, hd, hstep⟩ := (isCharacter_encodeChar c).exists_char
  obtain rfl := encodeChar_injective hd
  exact hstep start rest

/-! ## Texts -/

theorem decodeFrom_encode (text : List Char) (start : Nat) :
    decodeFrom start (encode text) = .ok text := by
  induction text generalizing start with
  | nil => rfl
  | cons c text ih =>
    rw [encode_cons, decodeFrom_encodeChar, ih]
    rfl

theorem encode_of_step {c : Char} {octets rest : List UInt8} {r : Except Malformed (List Char)}
    {text : List Char} (h : r.map (c :: ·) = .ok text) (hc : String.utf8EncodeChar c = octets)
    (hrest : ∀ {text}, r = .ok text → encode text = rest) : encode text = octets ++ rest := by
  cases r with
  | error m => cases h
  | ok inner =>
    obtain rfl : c :: inner = text := Except.ok.inj h
    rw [encode_cons, hc, hrest rfl]

theorem encode_of_decodeFrom {start : Nat} {octets : List UInt8} {text : List Char}
    (h : decodeFrom start octets = .ok text) : encode text = octets := by
  fun_induction decodeFrom start octets generalizing text with
  | case1 => exact Except.ok.inj h ▸ rfl
  | case2 _ _ _ lead ih => exact encode_of_step h (encodeChar_of_one lead) ih
  | case4 _ _ lead _ _ second ih => exact encode_of_step h (encodeChar_of_two lead second) ih
  | case10 _ _ lead _ _ _ second third ih =>
    rw [Bool.not_eq_true, Bool.not_eq_false'] at second third
    exact encode_of_step h (encodeChar_of_three lead second third) ih
  | case17 _ _ n hone htwo hthree lead _ _ _ _ second third fourth ih =>
    rw [Bool.not_eq_true, Bool.not_eq_false'] at second third fourth
    obtain rfl : n = 4 := by
      have hother : n ≠ 1 ∧ n ≠ 2 ∧ n ≠ 3 := ⟨hone, htwo, hthree⟩
      have hwidth := width_eq_some.mp lead
      omega
    exact encode_of_step h (encodeChar_of_four lead second third fourth) ih
  | _ => cases h

/-- Octets are decoded to a text exactly if they are those of the text. -/
theorem decode_eq_ok {octets : List UInt8} {text : List Char} :
    decode octets = .ok text ↔ encode text = octets := by
  constructor
  · exact encode_of_decodeFrom
  · rintro rfl
    exact decodeFrom_encode text 0

end AppConfig.Text.Utf8

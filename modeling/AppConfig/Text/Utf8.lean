/-! # UTF-8

* `decode`: the text that a sequence of octets encodes, or the place and length of its first
  fault.
* `Malformed.describe`: the wording of that fault.
* `decodeAll`: the text of any octets, with the replacement character for each fault.

A fault is the longest run of octets, at least one, that could have begun an encoded character;
when the octets end inside such a run the sequence is incomplete.
-/

namespace AppConfig.Text.Utf8
set_option autoImplicit false

/-- Where decoding stops: after `validUpTo` good octets stands a faulty run of `length` octets,
or, for `none`, the octets end inside a character. -/
structure Malformed where
  validUpTo : Nat
  length : Option Nat
  deriving DecidableEq, Repr

namespace Malformed

def describe (m : Malformed) : String :=
  match m.length with
  | some n => s!"invalid utf-8 sequence of {n} bytes from index {m.validUpTo}"
  | none => s!"incomplete utf-8 byte sequence from index {m.validUpTo}"

end Malformed

/-- An octet that continues a character. -/
def isTail (b : UInt8) : Bool :=
  0x80 ≤ b && b ≤ 0xBF

/-- The octets that may follow the lead octet `b` of a character of three or four octets: they
exclude overlong forms, surrogates and values above `U+10FFFF`. -/
def secondAllowed (b s : UInt8) : Bool :=
  if b = 0xE0 then 0xA0 ≤ s && s ≤ 0xBF
  else if b = 0xED then 0x80 ≤ s && s ≤ 0x9F
  else if b = 0xF0 then 0x90 ≤ s && s ≤ 0xBF
  else if b = 0xF4 then 0x80 ≤ s && s ≤ 0x8F
  else isTail s

/-- The number of octets of a character that begins with `b`, if any does. -/
def width (b : UInt8) : Option Nat :=
  if b ≤ 0x7F then some 1
  else if 0xC2 ≤ b && b ≤ 0xDF then some 2
  else if 0xE0 ≤ b && b ≤ 0xEF then some 3
  else if 0xF0 ≤ b && b ≤ 0xF4 then some 4
  else none

/-- The six low bits that a continuing octet carries. -/
def payload (b : UInt8) : Nat :=
  b.toNat % 64

/-- The text of `bytes`, of which the first stands at index `start`. -/
def decodeFrom (start : Nat) : List UInt8 → Except Malformed (List Char)
  | [] => .ok []
  | b :: rest =>
    match width b with
    | some 1 => (decodeFrom (start + 1) rest).map (Char.ofNat b.toNat :: ·)
    | some 2 =>
      match rest with
      | [] => .error ⟨start, none⟩
      | s :: rest =>
        if isTail s then
          (decodeFrom (start + 2) rest).map
            (Char.ofNat (b.toNat % 32 * 64 + payload s) :: ·)
        else .error ⟨start, some 1⟩
    | some 3 =>
      match rest with
      | [] => .error ⟨start, none⟩
      | [s] => .error ⟨start, if secondAllowed b s then none else some 1⟩
      | s :: t :: rest =>
        if !secondAllowed b s then .error ⟨start, some 1⟩
        else if !isTail t then .error ⟨start, some 2⟩
        else
          (decodeFrom (start + 3) rest).map
            (Char.ofNat ((b.toNat % 16 * 64 + payload s) * 64 + payload t) :: ·)
    | some _ =>
      match rest with
      | [] => .error ⟨start, none⟩
      | [s] => .error ⟨start, if secondAllowed b s then none else some 1⟩
      | [s, t] =>
        .error ⟨start, if !secondAllowed b s then some 1 else if isTail t then none else some 2⟩
      | s :: t :: u :: rest =>
        if !secondAllowed b s then .error ⟨start, some 1⟩
        else if !isTail t then .error ⟨start, some 2⟩
        else if !isTail u then .error ⟨start, some 3⟩
        else
          (decodeFrom (start + 4) rest).map
            (Char.ofNat (((b.toNat % 8 * 64 + payload s) * 64 + payload t) * 64 + payload u) :: ·)
    | none => .error ⟨start, some 1⟩

/-- The text that the octets encode. -/
def decode (bytes : List UInt8) : Except Malformed (List Char) :=
  decodeFrom 0 bytes

/-- The text of octets with at most `count` faults, each of which becomes one replacement
character. -/
def decodeReplacing : Nat → List UInt8 → List Char
  | 0, _ => []
  | count + 1, bytes =>
    match decode bytes with
    | .ok text => text
    | .error m =>
      let good := (decode (bytes.take m.validUpTo)).toOption.getD []
      match m.length with
      | some n => good ++ '\uFFFD' :: decodeReplacing count (bytes.drop (m.validUpTo + n))
      | none => good ++ ['\uFFFD']

/-- The text of any octets: a fault becomes a replacement character. -/
def decodeAll (bytes : List UInt8) : List Char :=
  decodeReplacing (bytes.length + 1) bytes

end AppConfig.Text.Utf8

import AppConfig.Number.Power

/-! # Double-precision numbers

* `Binary64`: a number by its 64 bits: sign, 11 bits of exponent, 52 bits of fraction.
* `nearest`: the bits of the double next to a ratio of naturals, a tie going to the even one.
* `ratio`: the exact value of the bits of a finite number that is not negative.
* `ofScaled`: a decimal number in the manner of a reader that converts its digits first and
  multiplies or divides by a power of ten afterwards, rounding at each step.
* `ofDecimal`: a decimal number rounded once.
-/

namespace AppConfig
set_option autoImplicit false

/-- A double-precision number, by its bits. -/
structure Binary64 where
  bits : UInt64
  deriving DecidableEq, Repr

namespace Binary64

/-- The bits of positive infinity. -/
def infinityBits : Nat := 2047 * twoTo 52

/-- The bits of the quiet number that is none. -/
def nanBits : Nat := infinityBits + twoTo 51

/-- A number from its sign and the bits of its magnitude. -/
def ofMagnitude (negative : Bool) (magnitude : Nat) : Binary64 :=
  ⟨UInt64.ofNat (if negative then twoTo 63 + magnitude else magnitude)⟩

def isNegative (x : Binary64) : Bool := twoTo 63 ≤ x.bits.toNat

/-- The bits without the sign. -/
def magnitude (x : Binary64) : Nat := x.bits.toNat % twoTo 63

/-! ## Rounding -/

/-- The quotient rounded to the nearest natural, a tie going to the even one. -/
def roundDiv (num den : Nat) : Nat :=
  let q := num / den
  let r := num % den
  if den < 2 * r || (2 * r = den && q % 2 = 1) then q + 1 else q

/-- `num / den` times two to the power `-q`, as a ratio. -/
def scaleRatio (num den : Nat) (q : Int) : Nat × Nat :=
  if 0 ≤ q then (num, den * twoTo q.toNat) else (num * twoTo (-q).toNat, den)

/-- The exponent of the last place of the doubles around `num / den`, at least `-1074`. -/
def lastPlace (num den : Nat) : Int :=
  let guess : Int := num.log2 - den.log2 - 52
  let (n, d) := scaleRatio num den guess
  max (-1074) (if n < d * twoTo 52 then guess - 1 else guess)

/-- The bits of the double nearest to `num / den`; those of infinity when it is too large. -/
def nearest (num den : Nat) : Nat :=
  if num = 0 then 0
  else
    let q := lastPlace num den
    let (n, d) := scaleRatio num den q
    let m := roundDiv n d
    if m < twoTo 52 then m
    else min infinityBits ((q + 1075).toNat * twoTo 52 + (m - twoTo 52))

/-- Mantissa and exponent of the finite number with these bits. -/
def parts (magnitude : Nat) : Nat × Int :=
  let e : Nat := magnitude / twoTo 52
  let f : Nat := magnitude % twoTo 52
  if e = 0 then (f, -1074) else (twoTo 52 + f, (e : Int) - 1075)

/-- The exact value of the finite number with these bits. -/
def ratio (magnitude : Nat) : Nat × Nat :=
  let (m, q) := parts magnitude
  if 0 ≤ q then (m * twoTo q.toNat, 1) else (m, twoTo (-q).toNat)

/-! ## Decimal numbers -/

/-- The double nearest to ten to the power `n`. -/
def powerOfTen (n : Nat) : Nat := nearest (tenTo n) 1

def times (x y : Nat) : Nat :=
  let (a, b) := ratio x
  let (c, d) := ratio y
  nearest (a * c) (b * d)

def dividedBy (x y : Nat) : Nat :=
  let (a, b) := ratio x
  let (c, d) := ratio y
  nearest (a * d) (b * c)

/-- A magnitude divided by ten to the power `n`, in steps of at most `308` places. -/
def shiftDown (x n : Nat) : Nat :=
  if n ≤ 308 then dividedBy x (powerOfTen n)
  else if x = 0 then 0
  else shiftDown (dividedBy x (powerOfTen 308)) (n - 308)
termination_by n

/-- `digits` times ten to the power `exponent`, converted digits first. `none` when the product
is out of range. -/
def ofScaled (negative : Bool) (digits : Nat) (exponent : Int) : Option Binary64 :=
  let x := nearest digits 1
  if exponent < 0 then some (ofMagnitude negative (shiftDown x (-exponent).toNat))
  else if x = 0 then some (ofMagnitude negative 0)
  else if 308 < exponent then none
  else
    let y := times x (powerOfTen exponent.toNat)
    if y < infinityBits then some (ofMagnitude negative y) else none

/-- `digits` times ten to the power `exponent`, rounded once; infinite when out of range. -/
def ofDecimal (negative : Bool) (digits : Nat) (exponent : Int) : Binary64 :=
  ofMagnitude negative <|
    if digits = 0 then 0
    else if 400 < exponent then infinityBits
    else if exponent < -((Nat.log2 digits : Int) + 400) then 0
    else if 0 ≤ exponent then nearest (digits * tenTo exponent.toNat) 1
    else nearest digits (tenTo (-exponent).toNat)

end Binary64
end AppConfig

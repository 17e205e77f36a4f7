import AppConfig.Number.Binary64

/-! # The shortest decimal form of a double

* `Tie`: which of two numbers is taken that are equally near.
* `shortest`: the decimal number with the fewest digits that rounds to the double; of several,
  the one next to the exact value.
* `Binary64.positional`: the digits around a point, without an exponent; ties go away from zero.
* `Binary64.jsonText`: a number with a point or an exponent, which a reader takes for a double; ties
  go to the even last digit.
-/

namespace AppConfig
set_option autoImplicit false

/-- A decimal number: `digits` times ten to the power `exponent`. -/
structure Decimal where
  digits : Nat
  exponent : Int
  deriving DecidableEq, Repr

namespace Decimal

/-- The number without zeros at its end, of which `fuel` bounds the count. -/
def trim (fuel : Nat) (x : Decimal) : Decimal :=
  match fuel with
  | 0 => x
  | n + 1 =>
    if x.digits % 10 = 0 && x.digits ≠ 0 then trim n ⟨x.digits / 10, x.exponent + 1⟩ else x

def text (x : Decimal) : List Char := Nat.toDigits 10 x.digits

end Decimal

/-- Which of two neighbours on a grid is taken that are equally near. -/
inductive Tie where
  | toEven
  | awayFromZero
  deriving DecidableEq, Repr

/-- The whole number next to `num / den`. -/
def Tie.round : Tie → Nat → Nat → Nat
  | toEven, num, den => Binary64.roundDiv num den
  | awayFromZero, num, den => (2 * num + den) / (2 * den)

namespace Binary64

/-- The power of ten of the leading digit of `num / den`. -/
def leadingPlace (num den : Nat) : Int :=
  if den ≤ num then ((Nat.toDigits 10 (num / den)).length : Int) - 1
  else
    let d := (Nat.toDigits 10 (den / num)).length
    if den ≤ num * tenTo (d - 1) then -((d : Int) - 1) else -(d : Int)

/-- `digits` times ten to the power `exponent` rounds to the double with these bits. -/
def roundsTo (magnitude : Nat) (x : Decimal) : Bool :=
  (if 0 ≤ x.exponent then nearest (x.digits * tenTo x.exponent.toNat) 1
   else nearest x.digits (tenTo (-x.exponent).toNat)) = magnitude

/-- The two neighbours of `num / den` on the grid of multiples of ten to the power `k`, that
next to it first. -/
def neighbours (tie : Tie) (num den : Nat) (k : Int) : List Decimal :=
  let (n, d) := if 0 ≤ k then (num, den * tenTo k.toNat) else (num * tenTo (-k).toNat, den)
  let low := n / d
  let near := tie.round n d
  if near = low then [⟨low, k⟩, ⟨low + 1, k⟩] else [⟨low + 1, k⟩, ⟨low, k⟩]

/-- The first grid, from one digit to seventeen, that has a number which rounds to the double. -/
def shortestFrom (tie : Tie) (magnitude : Nat) (place : Int) : List Nat → Decimal
  | [] => ⟨0, 0⟩
  | n :: rest =>
    let (num, den) := ratio magnitude
    match (neighbours tie num den (place + 1 - n)).find? (roundsTo magnitude) with
    | some x => x.trim 18
    | none => shortestFrom tie magnitude place rest

/-- The shortest decimal number that rounds to the finite double with these bits. -/
def shortest (tie : Tie) (magnitude : Nat) : Decimal :=
  if magnitude = 0 then ⟨0, 0⟩
  else
    let (num, den) := ratio magnitude
    shortestFrom tie magnitude (leadingPlace num den) ((List.range 17).map (· + 1))

def sign (x : Binary64) : List Char :=
  if x.isNegative then ['-'] else []

def zeros (n : Nat) : List Char := List.replicate n '0'

/-- The shortest digits with the point in its place and no exponent; a tie goes away from zero. -/
def positional (x : Binary64) : List Char :=
  if infinityBits < x.magnitude then "NaN".toList
  else if x.magnitude = infinityBits then x.sign ++ "inf".toList
  else
    let d := shortest .awayFromZero x.magnitude
    let digits := d.text
    let point := digits.length + d.exponent
    x.sign ++
      if 0 ≤ d.exponent then digits ++ zeros d.exponent.toNat
      else if 0 < point then digits.take point.toNat ++ '.' :: digits.drop point.toNat
      else '0' :: '.' :: zeros (-point).toNat ++ digits

/-- An integer with a sign in front, also where it is not negative. -/
def signed (n : Int) : List Char :=
  if 0 ≤ n then '+' :: n.repr.toList else n.repr.toList

/-- The text of a finite double in a JSON document: positional from `1e-5` up to below `1e16`,
otherwise with an exponent, which always has a sign; a tie goes to the even digit. -/
def jsonText (x : Binary64) : List Char :=
  let d := shortest .toEven x.magnitude
  let digits := d.text
  let point := digits.length + d.exponent
  x.sign ++
    if x.magnitude = 0 then "0.0".toList
    else if 0 ≤ d.exponent && point ≤ 16 then digits ++ zeros d.exponent.toNat ++ ['.', '0']
    else if 0 < point && point ≤ 16 then
      digits.take point.toNat ++ '.' :: digits.drop point.toNat
    else if -5 < point && point ≤ 0 then '0' :: '.' :: zeros (-point).toNat ++ digits
    else
      let power := 'e' :: signed (point - 1)
      match digits with
      | [_] => digits ++ power
      | first :: more => first :: '.' :: more ++ power
      | [] => power

end Binary64
end AppConfig

import AppConfig.Number.Digits
import AppConfig.Settings.Value

/-! # Numbers in settings files

* `grouped?`: digits, between which single underscores may stand.
* `number?`: the number at the start of a text: an integer in decimal, or after `0x`, `0o` and
  `0b` in another base, or a decimal number with a point or an exponent, or `inf` or `nan`.

A whole part begins with a zero only when it is one. An integer has to fit a signed 64-bit word,
and a number that is written in digits does not round to positive infinity.
-/

namespace AppConfig.Toml
set_option autoImplicit false

/-- The rest of a run of digits, newest first, and the text after it. -/
def digitsAfter (isDigit : Char → Bool) (done : List Char) : List Char → Option (List Char × List Char)
  | [] => some (done.reverse, [])
  | '_' :: rest =>
    match rest with
    | [] => none
    | c :: rest => if isDigit c then digitsAfter isDigit (c :: done) rest else none
  | c :: rest =>
    if isDigit c then digitsAfter isDigit (c :: done) rest else some (done.reverse, c :: rest)

/-- At least one digit, without the underscores between digits, and the text after them. -/
def grouped? (isDigit : Char → Bool) : List Char → Option (List Char × List Char)
  | [] => none
  | c :: rest => if isDigit c then digitsAfter isDigit [c] rest else none

/-- The whole part of a number, and the text after it. -/
def wholePart? : List Char → Option (List Char × List Char)
  | '0' :: rest => some (['0'], rest)
  | text => grouped? Number.isDigit text

/-- The digits after the point that may stand in front, and the text after them. -/
def fractionPart? : List Char → Option (List Char × List Char)
  | '.' :: rest => grouped? Number.isDigit rest
  | text => some ([], text)

/-- The power of ten that may stand in front, and the text after it. -/
def exponentPart? : List Char → Option (Option Int × List Char)
  | [] => some (none, [])
  | c :: rest =>
    if c = 'e' || c = 'E' then do
      let (negative, rest) := Number.unsign rest
      let (digits, rest) ← grouped? Number.isDigit rest
      let n : Int := Number.natural 0 digits
      return (some (if negative then -n else n), rest)
    else some (none, c :: rest)

/-- A number in decimal after its sign, and the text after it. -/
def decimal? (negative : Bool) (text : List Char) : Option (Setting × List Char) := do
  let (whole, rest) ← wholePart? text
  let (fraction, rest) ← fractionPart? rest
  let (power, rest) ← exponentPart? rest
  if fraction.isEmpty && power.isNone then
    let n : Int := Number.natural 0 whole
    return (.integer (← int64? (if negative then -n else n)), rest)
  else
    let x := Binary64.ofDecimal negative (Number.natural 0 (whole ++ fraction))
      (power.getD 0 - fraction.length)
    if x = .ofMagnitude false Binary64.infinityBits then none else return (.real x, rest)

/-- A digit of a base up to sixteen. -/
def isDigitOf (base : Nat) (c : Char) : Bool := (Number.hexValue? c).any (· < base)

/-- An integer in a base after its mark, and the text after it. -/
def inBase? (base : Nat) (text : List Char) : Option (Setting × List Char) := do
  let (digits, rest) ← grouped? (isDigitOf base) text
  let n := digits.foldl (fun n c => n * base + (Number.hexValue? c).getD 0) 0
  return (.integer (← int64? n), rest)

/-- A number after its sign, and the text after it. -/
def afterSign? (negative : Bool) : List Char → Option (Setting × List Char)
  | 'i' :: 'n' :: 'f' :: rest => some (.real (.ofMagnitude negative Binary64.infinityBits), rest)
  | 'n' :: 'a' :: 'n' :: rest => some (.real (.ofMagnitude negative Binary64.nanBits), rest)
  | text => decimal? negative text

/-- The number at the start of a text, and the text after it. -/
def number? (text : List Char) : Option (Setting × List Char) :=
  match text with
  | '0' :: 'x' :: rest => inBase? 16 rest
  | '0' :: 'o' :: rest => inBase? 8 rest
  | '0' :: 'b' :: rest => inBase? 2 rest
  | _ =>
    let (negative, rest) := Number.unsign text
    afterSign? negative rest

end AppConfig.Toml

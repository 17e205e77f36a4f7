import AppConfig.Number.Binary64
import AppConfig.Number.Digits
import AppConfig.Number.Word

/-! # Numbers in settings

* `Number.ofInt64Text?`: an optional sign and digits, within a signed 64-bit word.
* `Number.ofFloatText?`: a decimal number with optional sign, point and exponent, or a word for
  infinity or for no number.
-/

namespace AppConfig.Number
set_option autoImplicit false

/-- Whether a sign in front is a minus, and the text after it. -/
def unsign : List Char → Bool × List Char
  | '-' :: rest => (true, rest)
  | '+' :: rest => (false, rest)
  | rest => (false, rest)

/-- An integer of a signed 64-bit word. -/
def ofInt64Text? (text : List Char) : Option Int :=
  let (negative, digits) := unsign text
  if digits.isEmpty || !digits.all isDigit then none
  else
    let n : Int := natural 0 digits
    int64? (if negative then -n else n)

/-- The power of ten after the mark of an exponent; no mark, no power. -/
def exponent? : List Char → Option Int
  | [] => some 0
  | mark :: rest =>
    let (negative, digits) := unsign rest
    if mark.toLower ≠ 'e' || digits.isEmpty || !digits.all isDigit then none
    else if negative then some (-(natural 0 digits : Int))
    else some (natural 0 digits)

/-- A decimal number, or a word for a number that is none or has no end. -/
def ofFloatText? (text : List Char) : Option Binary64 :=
  let (negative, rest) := unsign text
  let word := String.ofList (rest.map Char.toLower)
  if word = "inf" || word = "infinity" then some (.ofMagnitude negative Binary64.infinityBits)
  else if word = "nan" then some (.ofMagnitude negative Binary64.nanBits)
  else
    let whole := rest.takeWhile isDigit
    let rest := rest.dropWhile isDigit
    let (fraction, rest) :=
      match rest with
      | '.' :: rest => (rest.takeWhile isDigit, rest.dropWhile isDigit)
      | rest => ([], rest)
    if whole.isEmpty && fraction.isEmpty then none
    else
      (exponent? rest).map fun e =>
        .ofDecimal negative (natural (natural 0 whole) fraction) (e - fraction.length)

end AppConfig.Number

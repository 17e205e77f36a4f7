/-! # Digits

* `Number.isDigit`: the ASCII digits; `Number.digit?`: their values.
* `Number.hexValue?`: the values of hexadecimal digits.
* `Number.natural`: the number that a run of digits writes, after the digits of another number.
-/

namespace AppConfig.Number
set_option autoImplicit false

/-- An ASCII digit. -/
def isDigit (c : Char) : Bool := '0' ≤ c && c ≤ '9'

/-- The value of a digit. -/
def digitValue (c : Char) : Nat := c.toNat - '0'.toNat

/-- The value of a character that is a digit. -/
def digit? (c : Char) : Option Nat := if isDigit c then some (digitValue c) else none

/-- The value of a hexadecimal digit. -/
def hexValue? (c : Char) : Option Nat :=
  if '0' ≤ c && c ≤ '9' then some (c.toNat - '0'.toNat)
  else if 'a' ≤ c && c ≤ 'f' then some (c.toNat - 'a'.toNat + 10)
  else if 'A' ≤ c && c ≤ 'F' then some (c.toNat - 'A'.toNat + 10)
  else none

/-- The number that digits write, after the digits of the number `start`. -/
def natural (start : Nat) (digits : List Char) : Nat :=
  digits.foldl (fun n c => n * 10 + digitValue c) start

end AppConfig.Number

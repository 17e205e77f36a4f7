import AppConfig.Number.Digits

/-! # Dates and times in settings files

* `isDate`, `isTime`: whether a text begins like a date or a time of day.
* `moment?`: the date, the time or both at the start of a text, as settings hold it.

A moment is held as a text of one shape: `T` between date and time, `Z` for an offset that is
written as a letter, at most nine digits of a second, and no zeros at their end.
-/

namespace AppConfig.Toml
set_option autoImplicit false

/-- Exactly `count` digits at the start of a text, and the text after them. -/
def digits? (count : Nat) (text : List Char) : Option (List Char × List Char) :=
  let digits := text.take count
  if digits.length = count && digits.all Number.isDigit then some (digits, text.drop count)
  else none

/-- Two digits of a number within bounds, and the text after them. -/
def pair? (low high : Nat) (text : List Char) : Option (List Char × List Char) :=
  (digits? 2 text).filter fun p => low ≤ Number.natural 0 p.1 && Number.natural 0 p.1 ≤ high

/-- The text after a character that has to stand in front. -/
def after? (c : Char) : List Char → Option (List Char)
  | [] => none
  | d :: rest => if d = c then some rest else none

def isDate (text : List Char) : Bool :=
  ((digits? 4 text).bind fun p => after? '-' p.2).isSome

def isTime (text : List Char) : Bool :=
  ((pair? 0 23 text).bind fun p => after? ':' p.2).isSome

def isLeapYear (year : Nat) : Bool := year % 4 = 0 && (year % 100 ≠ 0 || year % 400 = 0)

/-- The days of a month. -/
def daysOf (year month : Nat) : Nat :=
  if month = 2 then (if isLeapYear year then 29 else 28)
  else if month = 4 || month = 6 || month = 9 || month = 11 then 30
  else 31

/-- A date, and the text after it. -/
def date? (text : List Char) : Option (List Char × List Char) := do
  let (year, rest) ← digits? 4 text
  let (month, rest) ← pair? 1 12 (← after? '-' rest)
  let (day, rest) ← pair? 1 (daysOf (Number.natural 0 year) (Number.natural 0 month))
    (← after? '-' rest)
  return (year ++ '-' :: month ++ '-' :: day, rest)

/-- How many digits of a second count. -/
def secondDigits : Nat := 9

/-- The digits of a second that may stand in front, and the text after them. -/
def secondFraction : List Char → List Char × List Char
  | '.' :: rest =>
    let digits := rest.takeWhile Number.isDigit
    if digits.isEmpty then ([], '.' :: rest)
    else
      match ((digits.take secondDigits).reverse.dropWhile (· = '0')).reverse with
      | [] => ([], rest.drop digits.length)
      | kept => ('.' :: kept, rest.drop digits.length)
  | text => ([], text)

/-- A time of day, and the text after it. -/
def time? (text : List Char) : Option (List Char × List Char) := do
  let (hour, rest) ← pair? 0 23 text
  let (minute, rest) ← pair? 0 59 (← after? ':' rest)
  let (second, rest) ← pair? 0 60 (← after? ':' rest)
  let (fraction, rest) := secondFraction rest
  return (hour ++ ':' :: minute ++ ':' :: second ++ fraction, rest)

/-- The offset from universal time that may stand in front, and the text after it. -/
def offset? : List Char → Option (List Char × List Char)
  | [] => some ([], [])
  | c :: rest =>
    if c = 'Z' || c = 'z' then some (['Z'], rest)
    else if c = '+' || c = '-' then do
      let (hour, rest) ← pair? 0 23 rest
      let (minute, rest) ← pair? 0 59 (← after? ':' rest)
      let sign := if Number.natural 0 (hour ++ minute) = 0 then '+' else c
      return (sign :: hour ++ ':' :: minute, rest)
    else some ([], c :: rest)

/-- A character between date and time. -/
def isDelimiter (c : Char) : Bool := c = 'T' || c = 't' || c = ' '

/-- What follows a date: a time with its offset, or nothing. -/
def timeOfDate? : List Char → Option (List Char × List Char)
  | [] => some ([], [])
  | c :: rest =>
    if isDelimiter c && isTime rest then do
      let (time, rest) ← time? rest
      let (offset, rest) ← offset? rest
      return ('T' :: time ++ offset, rest)
    else some ([], c :: rest)

/-- A text that begins like a date or a time, as settings hold it, and the text after it. -/
def moment? (text : List Char) : Option (String × List Char) := do
  if isDate text then
    let (date, rest) ← date? text
    let (time, rest) ← timeOfDate? rest
    return (String.ofList (date ++ time), rest)
  else
    let (time, rest) ← time? text
    return (String.ofList time, rest)

end AppConfig.Toml

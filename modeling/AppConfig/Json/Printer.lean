import AppConfig.Json.Basic
import AppConfig.Number.Shortest

/-! # Writing JSON

* `Layout`: on one line without spaces, or indented by two spaces a level.
* `Json.write`: the text of a value, its members in the order in which they stand.

In a string the quote, the backslash and the characters below `U+0020` are escaped, and nothing
else.
-/

namespace AppConfig
set_option autoImplicit false

/-- The layout of a written value. -/
inductive Layout where
  | pretty
  | compact
  deriving DecidableEq, Repr

namespace Json

/-- The digit of a number below sixteen. -/
def hexDigit (n : Nat) : Char :=
  if n < 10 then Char.ofNat ('0'.toNat + n) else Char.ofNat ('a'.toNat + (n - 10))

/-- A character inside a string literal. -/
def escapeChar (c : Char) : List Char :=
  if c = '"' then ['\\', '"']
  else if c = '\\' then ['\\', '\\']
  else if c = '\x08' then ['\\', 'b']
  else if c = '\x0c' then ['\\', 'f']
  else if c = '\n' then ['\\', 'n']
  else if c = '\r' then ['\\', 'r']
  else if c = '\t' then ['\\', 't']
  else if c.toNat < 0x20 then
    ['\\', 'u', '0', '0', hexDigit (c.toNat / 16), hexDigit (c.toNat % 16)]
  else [c]

/-- A string literal. -/
def writeString (s : String) : List Char :=
  '"' :: s.toList.flatMap escapeChar ++ ['"']

/-- An integer in decimal. -/
def writeInt : Int → List Char
  | .ofNat n => Nat.toDigits 10 n
  | .negSucc n => '-' :: Nat.toDigits 10 (n + 1)

/-- The start of a line at a level, in a layout that has lines. -/
def lineBreak (layout : Layout) (level : Nat) : List Char :=
  match layout with
  | .pretty => '\n' :: List.replicate (2 * level) ' '
  | .compact => []

/-- What stands between a key and its value. -/
def colon (layout : Layout) : List Char :=
  match layout with
  | .pretty => [':', ' ']
  | .compact => [':']

mutual

/-- The text of a value that begins at a level of nesting. -/
def writeAt (layout : Layout) (level : Nat) : Json → List Char
  | .null => ['n', 'u', 'l', 'l']
  | .bool true => ['t', 'r', 'u', 'e']
  | .bool false => ['f', 'a', 'l', 's', 'e']
  | .int n => writeInt n
  | .float x => x.jsonText
  | .string s => writeString s
  | .list [] => ['[', ']']
  | .list (v :: rest) =>
    '[' :: lineBreak layout (level + 1) ++ writeAt layout (level + 1) v
      ++ writeItems layout level rest
  | .object [] => ['\x7b', '\x7d']
  | .object ((k, v) :: rest) =>
    '\x7b' :: lineBreak layout (level + 1) ++ writeString k ++ colon layout
      ++ writeAt layout (level + 1) v ++ writeMembers layout level rest

/-- The further items of a list and its end. -/
def writeItems (layout : Layout) (level : Nat) : List Json → List Char
  | [] => lineBreak layout level ++ [']']
  | v :: rest =>
    ',' :: lineBreak layout (level + 1) ++ writeAt layout (level + 1) v
      ++ writeItems layout level rest

/-- The further members of an object and its end. -/
def writeMembers (layout : Layout) (level : Nat) : List (String × Json) → List Char
  | [] => lineBreak layout level ++ ['\x7d']
  | (k, v) :: rest =>
    ',' :: lineBreak layout (level + 1) ++ writeString k ++ colon layout
      ++ writeAt layout (level + 1) v ++ writeMembers layout level rest

end

/-- The text of a value. -/
def write (layout : Layout) (v : Json) : List Char :=
  writeAt layout 0 v

/-- The text of a value, as a string. -/
def render (layout : Layout) (v : Json) : String :=
  String.ofList (v.write layout)

end Json
end AppConfig

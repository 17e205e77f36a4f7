import AppConfig.Number.Digits
import AppConfig.Pattern.Basic

/-! # The smallest parts of patterns

* `Atom`: a character, a kind of characters, or a place between characters.
* `escape?`: the atom after a backslash.
* `Atom.shape?`, `Atom.fitsClass`: whether the flags allow an atom, alone or in a class.

No number in braces is read here: a pattern stands in a log directive, where the first closing
brace ends it, so a brace that is no character of its own has no end.
-/

namespace AppConfig.Pattern
set_option autoImplicit false

/-- The smallest parts of patterns. -/
inductive Atom where
  /-- A character; one that two hexadecimal digits write is also an octet. -/
  | character (c : Char) (isOctet : Bool)
  | anyCharacter
  /-- The digits, the blanks or the characters of words, or all others. -/
  | kind (isNegated : Bool)
  /-- The characters of a general category, or all others. -/
  | category
  /-- A place at an edge: of a word, of a line or of the text. -/
  | edge (ofWord : Bool)
  deriving DecidableEq, Repr

def isAscii (c : Char) : Bool := c.toNat < 0x80

/-! ## After a backslash -/

/-- The characters that mean something else without a backslash in front. -/
def isMark (c : Char) : Bool := "\\.+*?()|[]\x7b\x7d^$#&-~".toList.contains c

/-- A character that a backslash in front leaves as it is: one of ASCII, but neither a letter nor
a digit nor an angle. -/
def isPlain (c : Char) : Bool :=
  isMark c || (isAscii c && !c.isAlphanum && c ≠ '<' && c ≠ '>')

/-- The categories of characters whose names have one letter, in any case. -/
def isCategory (c : Char) : Bool := "clmnpsz".toList.contains c.toLower

/-- The number that some hexadecimal digits write, after those of another number. -/
def hexNumber? (f : Flags) : Nat → Nat → List Char → Option (Nat × List Char)
  | 0, n, text => some (n, text)
  | count + 1, n, text =>
    match f.skip text with
    | [] => none
    | c :: rest =>
      match Number.hexValue? c with
      | some d => hexNumber? f count (n * 16 + d) rest
      | none => none

/-- The character whose number some hexadecimal digits write. -/
def numbered? (f : Flags) (count : Nat) (text : List Char) : Option (Atom × List Char) :=
  match hexNumber? f count 0 text with
  | some (n, rest) =>
    if n.isValidChar then some (.character (Char.ofNat n) (count = 2), rest) else none
  | none => none

/-- The category that a letter names. -/
def category? (f : Flags) (text : List Char) : Option (Atom × List Char) :=
  match f.skip text with
  | c :: rest => if isCategory c then some (.category, rest) else none
  | [] => none

/-- The character for which a letter stands. -/
def control? : Char → Option Char
  | 'a' => some '\x07'
  | 'f' => some '\x0c'
  | 't' => some '\t'
  | 'n' => some '\n'
  | 'r' => some '\r'
  | 'v' => some '\x0b'
  | _ => none

/-- The atom that one character after a backslash writes. -/
def short? (c : Char) : Option Atom :=
  if isPlain c then some (.character c false)
  else if "dsw".toList.contains c then some (.kind false)
  else if "DSW".toList.contains c then some (.kind true)
  else if "bB<>".toList.contains c then some (.edge true)
  else if "Az".toList.contains c then some (.edge false)
  else (control? c).map fun c => .character c false

/-- The atom after a backslash, and the text after it. -/
def escape? (f : Flags) : List Char → Option (Atom × List Char)
  | [] => none
  | 'x' :: rest => numbered? f 2 rest
  | 'u' :: rest => numbered? f 4 rest
  | 'U' :: rest => numbered? f 8 rest
  | 'p' :: rest => category? f rest
  | 'P' :: rest => category? f rest
  | c :: rest => (short? c).map fun a => (a, rest)

/-! ## What the flags allow -/

/-- An atom alone, if it cannot ask for a part of a character. -/
def Atom.shape? (f : Flags) : Atom → Option Shape
  | .character c isOctet =>
    if f.isUnicode || isAscii c || !(isOctet || f.isCaseless) then some {} else none
  | .anyCharacter => if f.isUnicode then some {} else none
  | .kind isNegated => if f.isUnicode || !isNegated then some {} else none
  | .category => if f.isUnicode then some {} else none
  | .edge ofWord => some { asksForWordEdge := ofWord && f.isUnicode }

/-- An atom may stand in a class. -/
def Atom.fitsClass (f : Flags) : Atom → Bool
  | .character c _ => f.isUnicode || isAscii c
  | .kind isNegated => f.isUnicode || !isNegated
  | .category => f.isUnicode
  | .anyCharacter | .edge _ => false

end AppConfig.Pattern

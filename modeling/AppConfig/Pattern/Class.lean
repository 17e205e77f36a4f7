import AppConfig.Pattern.Atom

/-! # Classes of characters

A class stands between brackets. Its members are characters, ranges, kinds of characters and
further classes; two marks in a row stand between what a class holds and what it leaves out.

* `Operand`: a class that is being read, as far as its last operator.
* `readMember?`: a member that is no class; `asciiClass?`: a class with a name.
* `readClass`: a class up to its closing bracket.

A hyphen at the start, a closing bracket in the first place and a hyphen before the closing bracket
are characters of the class.
-/

namespace AppConfig.Pattern
set_option autoImplicit false

/-- A class that is being read. -/
structure Operand where
  /-- What stands before the last operator. -/
  before : Option Shape := none
  /-- The members after it. -/
  members : List Shape := []
  /-- Nothing but hyphens has been read. -/
  isFresh : Bool := true

namespace Operand

def add (x : Operand) (member : Shape) : Operand :=
  { x with members := member :: x.members, isFresh := false }

/-- The class as far as it is read. -/
def shape (x : Operand) : Shape := Shape.ofRow (x.before.toList ++ [Shape.ofRow x.members])

/-- The class after an operator. -/
def operate (x : Operand) : Operand := ⟨some x.shape, [], false⟩

/-- A character at the start of a class that is a member there, though not elsewhere. -/
def takes (x : Operand) (c : Char) : Bool :=
  x.isFresh && (c = '-' || (c = ']' && x.members.isEmpty))

/-- The class after such a character. -/
def take (x : Operand) (c : Char) : Operand := { x.add {} with isFresh := c = '-' }

end Operand

/-- The names of classes of ASCII characters. -/
def asciiNames : List String :=
  ["alnum", "alpha", "ascii", "blank", "cntrl", "digit", "graph", "lower", "print", "punct",
    "space", "upper", "word", "xdigit"]

/-- The class with a name after an opening bracket: whether it is the class of all others, and the
text after it. -/
def asciiClass? : List Char → Option (Bool × List Char)
  | ':' :: rest =>
    let isNegated := rest.head? = some '^'
    let name := if isNegated then rest.tail else rest
    match name.dropWhile (· ≠ ':') with
    | ':' :: ']' :: after =>
      if asciiNames.contains (String.ofList (name.takeWhile (· ≠ ':'))) then
        some (isNegated, after)
      else none
    | _ => none
  | _ => none

/-- Two characters in a row are an operator. -/
def isOperator (c : Char) (next : Option Char) : Bool :=
  (c = '&' || c = '-' || c = '~') && next = some c

/-- A character or a kind of characters in a class. -/
def classAtom? (f : Flags) : List Char → Option (Atom × List Char)
  | [] => none
  | '\\' :: rest => escape? f rest
  | c :: rest => some (.character c false, rest)

/-- The next character that the flags do not ignore, of which a mark of a comment is one at
most. -/
def peek (f : Flags) (text : List Char) : Option Char :=
  if f.isSpaced then
    match Text.trimLeft text with
    | '#' :: rest => (Text.trimLeft rest).head?
    | text => text.head?
  else text.head?

/-- Two members are the ends of a range. -/
def isRange (f : Flags) : Atom → Atom → Bool
  | .character a i, .character b j =>
    a.toNat ≤ b.toNat && Atom.fitsClass f (.character a i) && Atom.fitsClass f (.character b j)
  | _, _ => false

/-- A member that is no class: the text after it. -/
def readMember? (f : Flags) (text : List Char) : Option (List Char) :=
  match classAtom? f text with
  | none => none
  | some (first, rest) =>
    match f.skip rest with
    | '-' :: after =>
      if peek f after = some ']' || peek f after = some '-' then
        if first.fitsClass f then some ('-' :: after) else none
      else
        match classAtom? f (f.skip after) with
        | some (last, rest) => if isRange f first last then some rest else none
        | none => none
    | rest => if first.fitsClass f then some rest else none

/-- The start of a class after its bracket: the text after the mark that negates it. -/
def openClass? (f : Flags) (text : List Char) : Option (List Char) :=
  match f.skip text with
  | '^' :: rest => if f.isUnicode then some rest else none
  | rest => some rest

/-- The rest of a class up to its closing bracket, and the text after it. `outer` holds the classes
around it, the next one first, and `fuel` bounds the number of members. -/
def readClass (f : Flags) : Nat → List Operand → Operand → List Char → Option (Shape × List Char)
  | 0, _, _, _ => none
  | fuel + 1, outer, x, text =>
    match f.skip text with
    | [] => none
    | c :: rest =>
      if x.takes c then readClass f fuel outer (x.take c) rest
      else if c = ']' then
        match outer with
        | [] => some (x.shape.around, rest)
        | next :: outer => readClass f fuel outer (next.add x.shape.around) rest
      else if c = '[' then
        match asciiClass? rest with
        | some (isNegated, rest) =>
          if f.isUnicode || !isNegated then readClass f fuel outer (x.add {}) rest else none
        | none =>
          match openClass? f rest with
          | some rest => readClass f fuel (x :: outer) {} rest
          | none => none
      else if isOperator c rest.head? then readClass f fuel outer x.operate rest.tail
      else
        match readMember? f (c :: rest) with
        | some rest => readClass f fuel outer (x.add {}) rest
        | none => none

/-- A class after its opening bracket, and the text after it. -/
def class? (f : Flags) (text : List Char) : Option (Shape × List Char) :=
  match openClass? f text with
  | some rest => readClass f text.length [] {} rest
  | none => none

end AppConfig.Pattern

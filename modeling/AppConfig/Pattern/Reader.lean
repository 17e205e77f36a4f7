import AppConfig.Pattern.Class
import AppConfig.Text.Alphanumeric
import AppConfig.Text.Split

/-! # Reading patterns

* `Group`: a group that is being read; `State`: the innermost one and those around it.
* `Flags.change?`: the flags after those that a group sets.
* `step`: one part of a pattern.
* `fault?`: why a text is no pattern that can be used, if it is none.

What repeats needs something to repeat, every group is closed, no two groups have one name, and
parts lie in each other at most two hundred and fifty deep.
-/

namespace AppConfig.Pattern
set_option autoImplicit false

/-! ## Groups -/

/-- A group that is being read. -/
structure Group where
  /-- The flags after the group. -/
  after : Flags := {}
  /-- The alternatives that are complete. -/
  branches : List Shape := []
  /-- The parts of the alternative that is being read. -/
  parts : List Shape := []
  /-- Its last part may be repeated. -/
  canRepeat : Bool := false

namespace Group

def add (g : Group) (part : Shape) : Group :=
  { g with parts := part :: g.parts, canRepeat := true }

/-- The group with flags set in it, which are a part that cannot be repeated. -/
def addFlags (g : Group) : Group := { g.add {} with canRepeat := false }

/-- The group at the start of another alternative. -/
def branch (g : Group) : Group :=
  { g with branches := Shape.ofRow g.parts :: g.branches, parts := [], canRepeat := false }

/-- What stands in the group. -/
def shape (g : Group) : Shape := Shape.ofRow (Shape.ofRow g.parts :: g.branches)

/-- The group with its last part repeated, if there is one. -/
def repeated? (g : Group) : Option Group :=
  match g.parts with
  | part :: before =>
    if g.canRepeat then some { g with parts := part.around :: before } else none
  | [] => none

end Group

/-- How far a pattern is read. -/
structure State where
  flags : Flags := {}
  /-- The names of the groups. -/
  names : List (List Char) := []
  group : Group := {}
  /-- The groups around it, the next one first. -/
  outer : List Group := []

namespace State

def add (s : State) (part : Shape) : State := { s with group := s.group.add part }

/-- The start of a group in which flags hold. -/
def enter (s : State) (flags : Flags) : State :=
  { s with flags, group := { after := s.flags }, outer := s.group :: s.outer }

/-- The end of a group. -/
def leave? (s : State) : Option State :=
  match s.outer with
  | [] => none
  | next :: outer =>
    some { s with
      flags := s.group.after, group := next.add s.group.shape.around, outer }

end State

/-! ## The start of a group -/

/-- The letters of the flags. -/
def flagLetters : List Char := "imsUuRx".toList

/-- The flags with some of them turned on or off. -/
def Flags.turn (f : Flags) (on : Bool) (letters : List Char) : Flags where
  isSpaced := if letters.contains 'x' then on else f.isSpaced
  isCaseless := if letters.contains 'i' then on else f.isCaseless
  isUnicode := if letters.contains 'u' then on else f.isUnicode

/-- The flags after those that a word turns on, and off after a hyphen; no letter comes twice. -/
def Flags.change? (f : Flags) (word : List Char) : Option Flags :=
  let (on, off) := Text.cut '-' word
  let letters := on ++ off.getD []
  if off = some [] || !letters.all flagLetters.contains || letters.eraseDups ≠ letters then none
  else some ((f.turn true on).turn false (off.getD []))

/-- A character of the name of a group. -/
def isNameChar (c : Char) : Bool :=
  c = '_' || c = '.' || c = '[' || c = ']' || Text.isAlphanumeric c

/-- A name of a group, which begins with a letter or an underscore. -/
def isName : List Char → Bool
  | [] => false
  | c :: rest => (c = '_' || Text.isLetter c) && rest.all isNameChar

/-- The name of a group up to its angle. -/
def named? (s : State) (text : List Char) : Option (State × List Char) :=
  let name := text.takeWhile (· ≠ '>')
  match text.dropWhile (· ≠ '>') with
  | _ :: rest =>
    if isName name && !s.names.contains name then
      some ({ s with names := name :: s.names }.enter s.flags, rest)
    else none
  | [] => none

/-- The flags of a group up to its colon, or of the rest of the group around them. -/
def flagged? (s : State) (text : List Char) : Option (State × List Char) :=
  let endsWord (c : Char) : Bool := c = ':' || c = ')'
  let word := text.takeWhile (!endsWord ·)
  match text.dropWhile (!endsWord ·), s.flags.change? word with
  | ':' :: rest, some flags => some (s.enter flags, rest)
  | ')' :: rest, some flags =>
    if word.isEmpty then none else some ({ s with flags, group := s.group.addFlags }, rest)
  | _, _ => none

/-- What stands after an opening parenthesis. -/
def open? (s : State) (text : List Char) : Option (State × List Char) :=
  match s.flags.skip text with
  | '?' :: 'P' :: '<' :: rest => named? s rest
  | '?' :: '<' :: rest => named? s rest
  | '?' :: rest => flagged? s rest
  | rest => some (s.enter s.flags, rest)

/-! ## Patterns -/

/-- A repetition, after which a question mark asks for the fewest. -/
def repeat? (s : State) (text : List Char) : Option (State × List Char) :=
  match s.group.repeated? with
  | some group => some ({ s with group }, if text.head? = some '?' then text.tail else text)
  | none => none

/-- An atom as the next part. -/
def atom? (s : State) (a : Atom) (text : List Char) : Option (State × List Char) :=
  (a.shape? s.flags).map fun part => (s.add part, text)

/-- One part of a pattern: its first character and the text after that. -/
def step (s : State) (c : Char) (text : List Char) : Option (State × List Char) :=
  match c with
  | '(' => open? s text
  | ')' => s.leave?.map fun s => (s, text)
  | '|' => some ({ s with group := s.group.branch }, text)
  | '[' => (class? s.flags text).map fun (part, rest) => (s.add part, rest)
  | '?' => repeat? s text
  | '*' => repeat? s text
  | '+' => repeat? s text
  | '\x7b' => none
  | '\\' => (escape? s.flags text).bind fun (a, rest) => atom? s a rest
  | '.' => atom? s .anyCharacter text
  | '^' => atom? s (.edge false) text
  | '$' => atom? s (.edge false) text
  | c => atom? s (.character c false) text

/-- The rest of a pattern; `fuel` bounds the number of its parts. -/
def readParts : Nat → State → List Char → Option State
  | 0, _, _ => none
  | fuel + 1, s, text =>
    match s.flags.skip text with
    | [] => some s
    | c :: rest =>
      match step s c rest with
      | some (s, rest) => readParts fuel s rest
      | none => none

/-- The shape of the pattern that a text writes. -/
def shape? (text : List Char) : Option Shape :=
  match readParts (text.length + 1) {} text with
  | some s => if s.outer.isEmpty then some s.group.shape else none
  | none => none

/-- The most parts that may lie in each other. -/
def depthLimit : Nat := 250

/-- Why a text is no pattern that can be used. -/
def fault? (text : List Char) : Option Fault :=
  match shape? text with
  | none => some .malformed
  | some shape =>
    if depthLimit < shape.depth then some .malformed
    else if shape.asksForWordEdge then some .wordEdge
    else none

end AppConfig.Pattern

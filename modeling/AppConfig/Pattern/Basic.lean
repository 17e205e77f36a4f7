import AppConfig.Text.Blank

/-! # Patterns over characters

A pattern is a regular expression in a text. This library only asks whether a text is a pattern
that can be made into an automaton; nothing is ever compared with one.

* `Flags`: how the rest of a pattern is read; `Flags.skip`: a text without what the flags ignore.
* `Shape`: how deep the parts of a pattern lie in each other, and whether it asks for the edge of
  a word.
* `Fault`: why a text is no pattern that can be used.
-/

namespace AppConfig.Pattern
set_option autoImplicit false

/-! ## Faults -/

/-- Why a text is no pattern that can be used. -/
inductive Fault where
  | malformed
  /-- An automaton cannot tell where a word of any letters begins or ends. -/
  | wordEdge
  deriving DecidableEq, Repr

def Fault.message : Fault → String
  | malformed => "error building NFA"
  | wordEdge =>
    "unsupported regex feature for DFAs: cannot build DFAs for regexes with Unicode word " ++
      "boundaries; switch to ASCII word boundaries, or heuristically enable Unicode word " ++
      "boundaries or use a different regex engine"

/-! ## Flags -/

/-- How the rest of a pattern is read. -/
structure Flags where
  /-- Blanks and comments may stand between the parts. -/
  isSpaced : Bool := false
  /-- The case of letters does not matter. -/
  isCaseless : Bool := false
  /-- The classes are sets of characters; otherwise they are sets of octets, of which a pattern
  may ask for those that are ASCII. -/
  isUnicode : Bool := true
  deriving DecidableEq, Repr

/-- A text without leading blanks and comments; a comment goes from its mark to the end of the
line. -/
def skipFrom (inComment : Bool) : List Char → List Char
  | [] => []
  | c :: rest =>
    if inComment then skipFrom (c ≠ '\n') rest
    else if Text.isBlank c then skipFrom false rest
    else if c = '#' then skipFrom true rest
    else c :: rest

/-- A text without what the flags ignore. -/
def Flags.skip (f : Flags) (text : List Char) : List Char :=
  if f.isSpaced then skipFrom false text else text

/-! ## Shapes -/

/-- What is known of a part of a pattern. -/
structure Shape where
  /-- How deep parts of several pieces lie in each other. -/
  depth : Nat := 0
  /-- It asks for the edge of a word of any letters. -/
  asksForWordEdge : Bool := false
  deriving DecidableEq, Repr

namespace Shape

/-- Two parts beside each other. -/
def beside (a b : Shape) : Shape :=
  ⟨max a.depth b.depth, a.asksForWordEdge || b.asksForWordEdge⟩

/-- A part that holds another. -/
def around (a : Shape) : Shape := { a with depth := a.depth + 1 }

/-- A row of parts, which is a part of its own if there are several. -/
def ofRow : List Shape → Shape
  | [] => {}
  | [a] => a
  | row => (row.foldl beside {}).around

end Shape

end AppConfig.Pattern

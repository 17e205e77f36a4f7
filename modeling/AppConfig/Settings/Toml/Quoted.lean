import AppConfig.Json.Printer
import AppConfig.Settings.Toml.Strings

/-! # Writing strings of settings files

* `Quoting`: the four ways to write a string; `Quoting.ofText`: the one that a text calls for.
* `Toml.quoted`: a text as a string of a settings file.

A text stands in double quotes unless it holds a quote, a backslash or a newline; then the first
way is taken that needs no escapes: single quotes, triple double quotes, triple single quotes.
Where all ways need escapes the text stands in double quotes, in triple ones if it has lines.
-/

namespace AppConfig.Toml
set_option autoImplicit false

/-- A way to write a string. -/
inductive Quoting where
  | basic
  | literal
  | basicBlock
  | literalBlock
  deriving DecidableEq, Repr

/-- The longest run of a character, after a run of `run` and the longest so far. -/
def longestRun (c : Char) (run longest : Nat) : List Char → Nat
  | [] => longest
  | d :: rest =>
    if d = c then longestRun c (run + 1) (max longest (run + 1)) rest
    else longestRun c 0 longest rest

namespace Quoting

/-- A character that cannot stand in a string as it is, not even in a block. -/
def isHidden (c : Char) : Bool := isControl c && c ≠ '\n'

/-- The way to write a text. -/
def ofText (text : List Char) : Quoting :=
  let plain := !text.any isHidden
  let lines := text.contains '\n'
  let slashes := text.contains '\\'
  let doubles := longestRun '"' 0 0 text
  let singles := longestRun '\'' 0 0 text
  if plain && !slashes && !lines && doubles = 0 then basic
  else if plain && !lines && singles = 0 then literal
  else if plain && !slashes && doubles ≤ 2 then basicBlock
  else if plain && singles ≤ 2 then literalBlock
  else if lines then basicBlock
  else basic

/-- The quotes at both ends. -/
def quotes : Quoting → List Char
  | basic => ['"']
  | literal => ['\'']
  | basicBlock => ['"', '"', '"']
  | literalBlock => ['\'', '\'', '\'']

/-- How many quotes in a row may stand inside a string as they are. -/
def bareQuotes : Quoting → Nat
  | basicBlock => 2
  | _ => 0

def isBlock : Quoting → Bool
  | basicBlock | literalBlock => true
  | basic | literal => false

end Quoting

/-- A character after a backslash or, for `none`, as it is. -/
def escape? (block : Bool) (c : Char) : Option (List Char) :=
  match c with
  | '\\' => some ['\\']
  | '\x08' => some ['b']
  | '\t' => some ['t']
  | '\n' => if block then none else some ['n']
  | '\x0c' => some ['f']
  | '\r' => some ['r']
  | c =>
    if isControl c then
      some (['u', '0', '0'] ++ [c.toNat / 16, c.toNat % 16].map fun n => (Json.hexDigit n).toUpper)
    else none

/-- The characters of a string with escapes, after `run` quotes in a row. -/
def escapeFrom (q : Quoting) (run : Nat) : List Char → List Char
  | [] => []
  | c :: rest =>
    if c = '"' then
      if run < q.bareQuotes then c :: escapeFrom q (run + 1) rest
      else '\\' :: c :: escapeFrom q 0 rest
    else
      match escape? q.isBlock c with
      | some letters => '\\' :: letters ++ escapeFrom q 0 rest
      | none => c :: escapeFrom q 0 rest

/-- The characters between the quotes. -/
def inner (q : Quoting) (text : List Char) : List Char :=
  match q with
  | .basic | .basicBlock => escapeFrom q 0 text
  | .literal | .literalBlock => text

/-- A text as a string; the lines of a block begin below its quotes. -/
def quoted (s : String) : String :=
  let text := s.toList
  let q := Quoting.ofText text
  let start := if q.isBlock && text.contains '\n' then ['\n'] else []
  String.ofList (q.quotes ++ start ++ inner q text ++ q.quotes)

end AppConfig.Toml

import AppConfig.Number.Digits

/-! # Strings in settings files

* `skip`, `endLine?`, `gap?`: blanks, the end of a line with its comment, and the space between
  the items of a list, which may hold lines and comments.
* `basic`: a string in double quotes, with escapes; `literal`: one in single quotes, without.
* `string?`: the string at the start of a text: on one line, or a block between triple quotes.

In a block a newline directly after the opening quotes does not count, and one or two quotes may
stand in front of the closing ones. A carriage return is good only before a line feed.
-/

namespace AppConfig.Toml
set_option autoImplicit false

/-! ## Blanks, lines and comments -/

def isSpace (c : Char) : Bool := c = ' ' || c = '\t'

/-- The text without the blanks in front. -/
def skip (text : List Char) : List Char := text.dropWhile isSpace

/-- A control character other than the tab, which no text may hold as it is. -/
def isControl (c : Char) : Bool := (c.toNat < 0x20 && c ≠ '\t') || c.toNat = 0x7F

/-- The text after a newline, which is a line feed with or without a carriage return. -/
def newline? : List Char → Option (List Char)
  | '\n' :: rest => some rest
  | '\r' :: '\n' :: rest => some rest
  | _ => none

/-- The text after the comment that may stand in front. -/
def afterComment : List Char → List Char
  | '#' :: rest => rest.dropWhile fun c => !isControl c
  | text => text

/-- The text after the rest of a line, which holds blanks and a comment at most. -/
def endLine? (text : List Char) : Option (List Char) :=
  match afterComment (skip text) with
  | [] => some []
  | rest => newline? rest

/-- The text after blanks, newlines and comments on lines of their own; the number of lines is at
most `lines`. -/
def gapWithin? : Nat → List Char → Option (List Char)
  | 0, text => some text
  | lines + 1, text =>
    match skip text with
    | [] => some []
    | c :: rest =>
      if c = '#' || c = '\n' || c = '\r' then
        (newline? (afterComment (c :: rest))).bind (gapWithin? lines)
      else some (c :: rest)

/-- The text after the space between the items of a list. -/
def gap? (text : List Char) : Option (List Char) := gapWithin? (text.length + 1) text

/-! ## Strings -/

/-- The character that a letter after a backslash stands for. -/
def escaped? : Char → Option Char
  | 'b' => some '\x08'
  | 't' => some '\t'
  | 'n' => some '\n'
  | 'f' => some '\x0c'
  | 'r' => some '\r'
  | '"' => some '"'
  | '\\' => some '\\'
  | _ => none

/-- The character with a number, which is no surrogate. -/
def scalar? (code : Nat) : Option Char :=
  if code < 0xD800 || (0xDFFF < code && code < 0x110000) then some (Char.ofNat code) else none

/-- Where a reader is inside a string in double quotes. -/
inductive Mode where
  | plain
  /-- After a backslash. -/
  | escape
  /-- Inside a number in hexadecimal digits: those still due after the next one. -/
  | hex (due : Nat) (code : Nat)
  /-- After a backslash at the end of a line: blanks and newlines do not count. -/
  | fold

/-- What the first of the quotes `quote`, which the rest of a block begins with, does: the quotes
that belong to the string and the text after the block, when it closes the block. -/
def closing? (quote : Char) : List Char → Option (List Char × List Char)
  | a :: b :: rest =>
    if a = quote && b = quote then
      let inner := (rest.take 2).takeWhile (· = quote)
      some (inner, rest.drop inner.length)
    else none
  | _ => none

/-- The string whose characters, newest first, are these. -/
def ofNewest (done : List Char) : String := String.ofList done.reverse

/-- The rest of a string in double quotes, its characters newest first. -/
def basic (block : Bool) (mode : Mode) (done : List Char) : List Char → Option (String × List Char)
  | [] => none
  | c :: rest =>
    match mode with
    | .hex due code =>
      match Number.hexValue? c with
      | none => none
      | some d =>
        match due with
        | 0 =>
          match scalar? (code * 16 + d) with
          | some e => basic block .plain (e :: done) rest
          | none => none
        | due + 1 => basic block (.hex due (code * 16 + d)) done rest
    | .escape =>
      if block && (newline? (skip (c :: rest))).isSome then basic block .fold done rest
      else if c = 'u' then basic block (.hex 3 0) done rest
      else if c = 'U' then basic block (.hex 7 0) done rest
      else
        match escaped? c with
        | some e => basic block .plain (e :: done) rest
        | none => none
    | mode =>
      let folding := mode matches .fold
      if c = '"' then
        if !block then some (ofNewest done, rest)
        else
          match closing? '"' rest with
          | some (inner, rest) => some (ofNewest (inner ++ done), rest)
          | none => basic block .plain (c :: done) rest
      else if c = '\\' then basic block .escape done rest
      else if folding && isSpace c then basic block .fold done rest
      else if block && c = '\n' then
        if folding then basic block .fold done rest else basic block .plain (c :: done) rest
      else if block && c = '\r' then
        if rest.head? = some '\n' then basic block mode done rest else none
      else if isControl c then none
      else basic block .plain (c :: done) rest

/-- The rest of a string in single quotes, its characters newest first. -/
def literal (block : Bool) (done : List Char) : List Char → Option (String × List Char)
  | [] => none
  | c :: rest =>
    if c = '\'' then
      if !block then some (ofNewest done, rest)
      else
        match closing? '\'' rest with
        | some (inner, rest) => some (ofNewest (inner ++ done), rest)
        | none => literal block (c :: done) rest
    else if block && c = '\n' then literal block (c :: done) rest
    else if block && c = '\r' then
      if rest.head? = some '\n' then literal block done rest else none
    else if isControl c then none
    else literal block (c :: done) rest

/-- The text of a block, whose first newline does not count. -/
def blockText (text : List Char) : List Char := (newline? text).getD text

/-- The string on one line at the start of a text, and the text after it. -/
def lineString? : List Char → Option (String × List Char)
  | '"' :: rest => basic false .plain [] rest
  | '\'' :: rest => literal false [] rest
  | _ => none

/-- The string at the start of a text, and the text after it. -/
def string? : List Char → Option (String × List Char)
  | '"' :: '"' :: '"' :: rest => basic true .plain [] (blockText rest)
  | '\'' :: '\'' :: '\'' :: rest => literal true [] (blockText rest)
  | text => lineString? text

end AppConfig.Toml

import AppConfig.Settings.Toml.Moments
import AppConfig.Settings.Toml.Numbers
import AppConfig.Settings.Toml.Strings
import AppConfig.Settings.Toml.Tree

/-! # Reading settings files

* `Toml.key?`: a key of parts with dots between them.
* `Toml.value?`: the value at the start of a text, and the text after it.
* `Statement`, `Toml.statement?`: what a line says, and the text after it; a value may go on over
  further lines.
* `Document`: what a file has declared so far, and the table that it is in.
* `Toml.read?`: the table that a text writes, keys as they are written.
-/

namespace AppConfig.Toml
set_option autoImplicit false

/-! ## Keys -/

def isBareKeyChar (c : Char) : Bool := c.isAlphanum || c = '_' || c = '-'

/-- One part of a key, and the text after it. -/
def keyPart? (text : List Char) : Option (String × List Char) :=
  match text with
  | '"' :: _ | '\'' :: _ => lineString? text
  | _ =>
    match text.takeWhile isBareKeyChar with
    | [] => none
    | part => some (String.ofList part, text.dropWhile isBareKeyChar)

/-- A key of at most `count` parts, and the text after it and the blanks behind it. -/
def keyParts? : Nat → List Char → Option (List String × List Char)
  | 0, _ => none
  | count + 1, text => do
    let (part, rest) ← keyPart? (skip text)
    match skip rest with
    | '.' :: rest =>
      let (parts, rest) ← keyParts? count rest
      return (part :: parts, rest)
    | rest => return ([part], rest)

/-- The most parts of a key, and the most lists and tables that may be open at a time. -/
def depthLimit : Nat := 79

/-- A key, and the text after it and the blanks behind it. -/
def key? (text : List Char) : Option (List String × List Char) := keyParts? depthLimit text

/-! ## Values -/

/-- A value that holds no others, and the text after it. -/
def scalarValue? (text : List Char) : Option (Setting × List Char) :=
  match text with
  | '"' :: _ | '\'' :: _ => (string? text).map fun (s, rest) => (.text s, rest)
  | 't' :: 'r' :: 'u' :: 'e' :: rest => some (.boolean true, rest)
  | 'f' :: 'a' :: 'l' :: 's' :: 'e' :: rest => some (.boolean false, rest)
  | _ =>
    if isDate text || isTime text then (moment? text).map fun (s, rest) => (.text s, rest)
    else number? text

mutual

/-- The value at the start of a text, inside `depth` lists and tables, and the text after it.
`fuel` bounds the values and separators on the way. -/
def valueWithin? (fuel depth : Nat) (text : List Char) : Option (Setting × List Char) :=
  match fuel with
  | 0 => none
  | fuel + 1 =>
    match text with
    | '[' :: rest => if depth < depthLimit then items? fuel (depth + 1) [] rest else none
    | '\x7b' :: rest =>
      if depth < depthLimit then
        match skip rest with
        | '\x7d' :: rest => some (.table [], rest)
        | rest => members? fuel (depth + 1) [] rest
      else none
    | _ => scalarValue? text

/-- The rest of a list, its items newest first. -/
def items? (fuel depth : Nat) (done : List Setting) (text : List Char) :
    Option (Setting × List Char) :=
  match fuel with
  | 0 => none
  | fuel + 1 =>
    match gap? text with
    | none => none
    | some (']' :: rest) => some (.list done.reverse, rest)
    | some text =>
      match valueWithin? fuel depth text with
      | none => none
      | some (v, rest) =>
        match gap? rest with
        | some (',' :: rest) => items? fuel depth (v :: done) rest
        | some (']' :: rest) => some (.list (v :: done).reverse, rest)
        | _ => none

/-- The rest of a table between braces. -/
def members? (fuel depth : Nat) (done : Nodes) (text : List Char) : Option (Setting × List Char) :=
  match fuel with
  | 0 => none
  | fuel + 1 =>
    match key? text with
    | some (key, '=' :: rest) =>
      match valueWithin? fuel depth (skip rest) with
      | none => none
      | some (v, rest) =>
        match done.assign? key v with
        | none => none
        | some done =>
          match skip rest with
          | ',' :: rest => members? fuel depth done rest
          | '\x7d' :: rest => some (done.toSetting, rest)
          | _ => none
    | _ => none

end

/-- The value at the start of a text, and the text after it. -/
def value? (text : List Char) : Option (Setting × List Char) :=
  valueWithin? (2 * text.length + 1) 0 text

/-! ## Statements -/

/-- What a line says. -/
inductive Statement where
  | nothing
  /-- A header: the table that the lines after it are about. -/
  | table (path : List String)
  /-- A header in double brackets: one more table of a list. -/
  | element (path : List String)
  | entry (key : List String) (value : Setting)

/-- What the line at the start of a text says, and the text after it. -/
def statement? (text : List Char) : Option (Statement × List Char) :=
  match skip text with
  | '[' :: '[' :: rest => do
    match ← key? rest with
    | (path, ']' :: ']' :: rest) => return (.element path, ← endLine? rest)
    | _ => none
  | '[' :: rest => do
    match ← key? rest with
    | (path, ']' :: rest) => return (.table path, ← endLine? rest)
    | _ => none
  | text =>
    match endLine? text with
    | some rest => some (.nothing, rest)
    | none => do
      match ← key? text with
      | (key, '=' :: rest) =>
        let (v, rest) ← value? (skip rest)
        return (.entry key v, ← endLine? rest)
      | _ => none

/-! ## Files -/

/-- What a file has declared so far, and the path of the table that it is in. -/
structure Document where
  nodes : Nodes
  current : List String

namespace Document

def empty : Document := ⟨[], []⟩

/-- What a line adds, unless it declares something again. -/
def add? (d : Document) : Statement → Option Document
  | .nothing => some d
  | .table path => do return ⟨← d.nodes.openTable? path, path⟩
  | .element path => do return ⟨← d.nodes.openElement? path, path⟩
  | .entry key value => do
    let nodes ← d.nodes.change? .around (fun _ nodes => nodes.assign? key value) d.current .header
    return { d with nodes }

/-- The lines of a text after what has been declared, at most `count` of them. -/
def addLines? : Nat → List Char → Document → Option Document
  | _, [], d => some d
  | 0, _, _ => none
  | count + 1, text, d => do
    let (statement, rest) ← statement? text
    addLines? count rest (← d.add? statement)

end Document

/-- The text without the mark of the order of octets that may stand in front. -/
def withoutMark : List Char → List Char
  | '\uFEFF' :: rest => rest
  | text => text

/-- The table that a text writes. -/
def read? (text : List Char) : Option Setting := do
  let text := withoutMark text
  return (← Document.empty.addLines? text.length text).nodes.toSetting

end AppConfig.Toml

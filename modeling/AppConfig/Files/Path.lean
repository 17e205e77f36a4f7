import AppConfig.Text.Split

/-! # Paths

* `Path`: the text of a path; a slash stands between its steps.
* `Path.join`: a path seen from a directory; an absolute one stays as it is.
* `Path.parent?`: the path without its last step.
* `Path.withEnding?`: the path with an ending added to the name that it leads to.
* `Path.expandHome`: a leading `~` stands for the home directory; `Path.lacksHome`: there is none
  that it could stand for.
* `Path.resolve`: a reference in a document, seen from the directory of the document.
-/

namespace AppConfig
set_option autoImplicit false

/-- A path, by its text. -/
structure Path where
  text : String
  deriving DecidableEq, Repr

namespace Path

/-- The path with these characters. -/
def ofChars (chars : List Char) : Path := ⟨String.ofList chars⟩

def chars (p : Path) : List Char := p.text.toList

def isAbsolute (p : Path) : Bool := p.chars.head? = some '/'

def isEmpty (p : Path) : Bool := p.chars.isEmpty

/-- A path seen from the directory `base`. -/
def join (base p : Path) : Path :=
  if p.isAbsolute then p
  else if base.isEmpty || base.chars.getLast? = some '/' then ofChars (base.chars ++ p.chars)
  else ofChars (base.chars ++ '/' :: p.chars)

/-- The steps of a path, among them empty ones around repeated slashes. -/
def steps (p : Path) : List (List Char) := Text.splitOn '/' p.chars

/-- A step that leads nowhere. -/
def isIdle (step : List Char) : Bool := step = [] || step = ['.']

/-- The part of a path before its steps: the root, or a dot in front; and the rest. -/
def lead : List Char → List Char × List Char
  | '/' :: rest => (['/'], rest)
  | ['.'] => (['.'], [])
  | '.' :: '/' :: rest => (['.'], '/' :: rest)
  | rest => ([], rest)

/-- The path without its last step and the idle steps before it. -/
def parent? (p : Path) : Option Path :=
  let (front, body) := lead p.chars
  match (Text.splitOn '/' body).reverse.dropWhile isIdle with
  | [] => if front = ['.'] then some (ofChars []) else none
  | _ :: before =>
    some (ofChars (front ++ Text.joinWith '/' (before.dropWhile isIdle).reverse))

/-- The path with `ending` added to its last name; a path whose last step goes up, or that has
no name, has none to add to. -/
def withEnding? (ending : String) (p : Path) : Option Path :=
  match p.steps.reverse.dropWhile isIdle with
  | [] => none
  | name :: before =>
    if name = ['.', '.'] then none
    else some (ofChars (Text.joinWith '/' (before.reverse ++ [name ++ ending.toList])))

/-! ## The home directory -/

/-- A character that ends the leading `~`. -/
def isSeparator (c : Char) : Bool := c = '/' || c = '\\'

/-- What stands behind a leading `~` that is the whole path or has a separator behind it. -/
def behindTilde? (p : Path) : Option (List Char) :=
  match p.chars with
  | '~' :: rest => if rest.isEmpty || rest.head?.any isSeparator then some rest else none
  | _ => none

/-- Such a path stands for one in the home directory, if there is one. -/
def expandHome (p : Path) (home : Option Path) : Path :=
  match p.behindTilde?, home with
  | some rest, some home =>
    match rest.dropWhile isSeparator with
    | [] => home
    | inner => home.join (ofChars inner)
  | _, _ => p

/-- The path stands for one in the home directory, and there is none. -/
def lacksHome (p : Path) (home : Option Path) : Bool := p.behindTilde?.isSome && home.isNone

/-- A reference seen from the directory of the document, if that is known. -/
def resolve (home base : Option Path) (reference : Path) : Path :=
  match base with
  | some dir => dir.join (reference.expandHome home)
  | none => reference.expandHome home

end Path
end AppConfig

import AppConfig.Number.Shortest
import AppConfig.Number.Text
import AppConfig.Text.Split

/-! # Setting values

* `Setting`: a value in a settings file or in the environment.
* `Setting.merge`: a later value over an earlier one, tables entry by entry, keys in lower case.
* `SettingStep`, `Setting.put`: a value under a path of keys and places in lists; what is no table
  or no list on the way becomes one.
* `SettingStep.ofText?`: the path that a text writes, such as `logging.level` or `logging[0]`.
* `Setting.set`: a value under the path that a key writes, or else under the key as it stands.
* `Setting.ofVariable`: the value that the text of an environment variable stands for.
* `Setting.text?`, `.flag?`: a value as a text or as a flag.
-/

namespace AppConfig
set_option autoImplicit false

/-- A value in a settings file or in the environment. -/
inductive Setting where
  /-- A place of a list that nobody filled. -/
  | nothing
  | text (value : String)
  | integer (value : Int)
  | real (value : Binary64)
  | boolean (value : Bool)
  | list (items : List Setting)
  | table (entries : List (String × Setting))
  deriving Inhabited

/-- A step to a part of a value: the value of a key, or an item of a list, which is counted from
the end when the place is negative. -/
inductive SettingStep where
  | key (name : String)
  | place (index : Int)
  deriving DecidableEq, Repr

namespace SettingStep

/-! ## Paths as texts -/

/-- A character of a key in a path. -/
def isKeyChar (c : Char) : Bool := c.isAlphanum || c = '_' || c = '-' || c = ' '

def isSpace (c : Char) : Bool := c = ' ' || c = '\t'

/-- A key, and the text after it. -/
def key? (text : List Char) : Option (SettingStep × List Char) :=
  match text.takeWhile isKeyChar with
  | [] => none
  | name => some (key (String.ofList name), text.dropWhile isKeyChar)

/-- The number between brackets that gives a place. -/
def index? (text : List Char) : Option Int :=
  let body := ((text.dropWhile isSpace).reverse.dropWhile isSpace).reverse
  match body with
  | '+' :: _ => none
  | _ => Number.ofInt64Text? body

/-- The further steps of a path, of which there are at most `count`. -/
def more? : Nat → List Char → Option (List SettingStep)
  | _, [] => some []
  | 0, _ => none
  | count + 1, '.' :: rest => do
    let (step, rest) ← key? rest
    return step :: (← more? count rest)
  | count + 1, '[' :: rest => do
    match Text.cut ']' rest with
    | (inner, some rest) => return place (← index? inner) :: (← more? count rest)
    | (_, none) => none
  | _, _ => none

/-- The path that a text writes: a key, then keys after dots and places in brackets. -/
def ofText? (text : List Char) : Option (List SettingStep) := do
  let (step, rest) ← key? text
  return step :: (← more? rest.length rest)

end SettingStep

namespace Setting

/-! ## Tables and lists -/

/-- The entries of a table; other values have none. -/
def entries : Setting → List (String × Setting)
  | table es => es
  | _ => []

/-- The items of a list; other values have none. -/
def items : Setting → List Setting
  | list vs => vs
  | _ => []

/-- The entries with one more, in place of an earlier one with its key. -/
def setEntry (key : String) (value : Setting) (es : List (String × Setting)) :
    List (String × Setting) :=
  es.filter (fun e => e.1 ≠ key) ++ [(key, value)]

/-- Keys differ by more than the case of their letters. -/
def foldKey (key : String) : String := String.ofList (key.toList.map Char.toLower)

mutual

/-- A value over an earlier one: a table adds its entries, any other value takes the place. -/
def merge (earlier : Option Setting) : Setting → Setting
  | table es => mergeEntries (earlier.getD (table [])) es
  | value => value

def mergeEntries (target : Setting) : List (String × Setting) → Setting
  | [] => target
  | (key, value) :: rest =>
    let es := target.entries
    mergeEntries (table (setEntry (foldKey key) (merge (es.lookup (foldKey key)) value) es)) rest

end

/-- Where a place lies in a list of a length. -/
def position (length : Nat) (index : Int) : Nat :=
  (if index < 0 then length + index else index).toNat

/-- The list with another item at a position, lengthened as far as needed. -/
def setItem (n : Nat) (value : Setting) (vs : List Setting) : List Setting :=
  (vs ++ List.replicate (n + 1 - vs.length) nothing).set n value

/-- Puts a value under a path: over an earlier one under a key, but in place of an earlier one in
a list. -/
def put (value : Setting) : List SettingStep → Option Setting → Setting
  | [], earlier => merge earlier value
  | .key name :: path, earlier =>
    let es := (earlier.getD nothing).entries
    table (setEntry (foldKey name) (put value path (es.lookup (foldKey name))) es)
  | .place index :: path, earlier =>
    let vs := (earlier.getD nothing).items
    let n := position vs.length index
    let inner := if path.isEmpty then value else put value path vs[n]?
    list (setItem n inner vs)

/-- Puts a value under the path that a key writes. A key that writes no path is one step. -/
def set (key : String) (value target : Setting) : Setting :=
  put value ((SettingStep.ofText? key.toList).getD [.key key]) (some target)

/-- The entries of a table over what came before, each under the path that its key writes. -/
def setAll (entries : List (String × Setting)) (target : Setting) : Setting :=
  entries.foldl (fun t e => set e.1 e.2 t) target

/-! ## Conversions -/

/-- The value that the text of an environment variable stands for. -/
def ofVariable (value : String) : Setting :=
  match String.ofList (value.toList.map Char.toLower) with
  | "true" => boolean true
  | "false" => boolean false
  | _ =>
    match Number.ofInt64Text? value.toList with
    | some n => integer n
    | none =>
      match Number.ofFloatText? value.toList with
      | some x => real x
      | none => text value

/-- A value as a text. -/
def text? : Setting → Option String
  | text s => some s
  | integer n => some (toString n)
  | real x => some (String.ofList x.positional)
  | boolean b => some (if b then "true" else "false")
  | nothing | list _ | table _ => none

/-- A value as a flag. -/
def flag? : Setting → Option Bool
  | boolean b => some b
  | integer n => some (n ≠ 0)
  | real x => some (x.magnitude ≠ 0)
  | text s =>
    let word := String.ofList (s.toList.map Char.toLower)
    if ["1", "true", "on", "yes"].contains word then some true
    else if ["0", "false", "off", "no"].contains word then some false
    else none
  | nothing | list _ | table _ => none

end Setting
end AppConfig

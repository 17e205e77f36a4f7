import AppConfig.Settings.Value

/-! # What a settings file declares

* `Node`: what stands under a key: a value, a table with the way it came to be, or a list of
  tables; `Nodes`: what stands under the keys of a table.
* `Nodes.assign?`: a value under a dotted key.
* `Nodes.openTable?`, `Nodes.openElement?`: the table of a header, and one more table in the list
  of a header in double brackets.
* `Nodes.toSetting`: the table as a setting.

Nothing is declared twice. A table that only stands around another one may still get a header of
its own, and dotted keys pass through it; a table that dotted keys made gets no header, and dotted
keys do not pass through the table of a header. A path through a list of tables goes on in the
last of them.
-/

namespace AppConfig.Toml
set_option autoImplicit false

/-- How a table came to be. -/
inductive Origin where
  | header
  /-- It stands around the table of a header. -/
  | around
  | dotted
  deriving DecidableEq, Repr

/-- What stands under a key. -/
inductive Node where
  | value (value : Setting)
  | table (origin : Origin) (nodes : List (String × Node))
  | tables (elements : List (List (String × Node)))

/-- What stands under the keys of a table. -/
abbrev Nodes := List (String × Node)

namespace Nodes

/-- Puts a node under a key, in place of an earlier one. -/
def insert (key : String) (node : Node) : Nodes → Nodes
  | [] => [(key, node)]
  | (k, n) :: rest => if k = key then (key, node) :: rest else (k, n) :: insert key node rest

/-- Changes the table at the end of a path, in a table that came to be so. Tables that are not
there are made on the way; when they are made for a dotted key, the path may not pass through the
table of a header. -/
def change? (made : Origin) (f : Origin → Nodes → Option Nodes) :
    List String → Origin → Nodes → Option Nodes
  | [], origin, nodes => f origin nodes
  | key :: path, _, nodes =>
    match nodes.lookup key with
    | none => do return insert key (.table made (← change? made f path made [])) nodes
    | some (.value _) => none
    | some (.table origin inner) =>
      if made = .dotted && origin = .header then none
      else do return insert key (.table origin (← change? made f path origin inner)) nodes
    | some (.tables elements) =>
      match elements.reverse with
      | [] => none
      | last :: before => do
        let last ← change? made f path .header last
        return insert key (.tables (last :: before).reverse) nodes

/-- Puts a value under a key that is new in a table. When the key is dotted, `inner`, the table
has to be one that dotted keys made, and otherwise it must not. -/
def addValue? (inner : Bool) (name : String) (value : Setting) (origin : Origin) (nodes : Nodes) :
    Option Nodes :=
  if decide (origin = .dotted) = inner && (nodes.lookup name).isNone then
    some (insert name (.value value) nodes)
  else none

/-- Puts a value under a dotted key of the table of a header. -/
def assign? (key : List String) (value : Setting) (nodes : Nodes) : Option Nodes :=
  match key.getLast? with
  | none => none
  | some name =>
    change? .dotted (addValue? (1 < key.length) name value) key.dropLast .header nodes

/-- The table of a header in the table around it. -/
def addTable? (name : String) (_ : Origin) (nodes : Nodes) : Option Nodes :=
  match nodes.lookup name with
  | none => some (insert name (.table .header []) nodes)
  | some (.table .around inner) => some (insert name (.table .header inner) nodes)
  | some _ => none

/-- One more table in a list of tables. -/
def addElement? (name : String) (_ : Origin) (nodes : Nodes) : Option Nodes :=
  match nodes.lookup name with
  | none => some (insert name (.tables [[]]) nodes)
  | some (.tables elements) => some (insert name (.tables (elements ++ [[]])) nodes)
  | some _ => none

/-- Declares the table of a header. -/
def openTable? (path : List String) (nodes : Nodes) : Option Nodes :=
  path.getLast?.bind fun name => change? .around (addTable? name) path.dropLast .header nodes

/-- Declares one more table in the list of a header. -/
def openElement? (path : List String) (nodes : Nodes) : Option Nodes :=
  path.getLast?.bind fun name => change? .around (addElement? name) path.dropLast .header nodes

end Nodes

/-! ## As settings -/

mutual

def Node.toSetting : Node → Setting
  | .value v => v
  | .table _ nodes => .table (entriesOf nodes)
  | .tables elements => .list (itemsOf elements)

/-- The entries of a table. -/
def entriesOf : List (String × Node) → List (String × Setting)
  | [] => []
  | (key, node) :: rest => (key, node.toSetting) :: entriesOf rest

/-- The items of a list of tables. -/
def itemsOf : List (List (String × Node)) → List Setting
  | [] => []
  | nodes :: rest => .table (entriesOf nodes) :: itemsOf rest

end

/-- The table with these nodes as a setting. -/
def Nodes.toSetting (nodes : Nodes) : Setting := .table (entriesOf nodes)

end AppConfig.Toml

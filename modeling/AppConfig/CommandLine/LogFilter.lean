import AppConfig.Event
import AppConfig.Number.Digits
import AppConfig.Number.Text
import AppConfig.Pattern.Reader
import AppConfig.Text.Alphanumeric
import AppConfig.Text.Blank
import AppConfig.Text.Split

/-! # Which events are shown

* `Directive`: up to which level events are shown, of which parts of the program.
* `Directive.ofText`: the directive that a text writes, such as `info`, `reader`, `reader=debug`
  or `reader[span{field}]=debug`.
* `LogFilter.shows`: the most specific directive about an event decides.
* `LogFilter.ofText?`, `LogFilter.ofTextLossy`: the directives between commas, all of them or
  those that are well formed.
* `LogLevel.ofNumber?`: the levels of the command line by number.

A filter without directives shows nothing, but where directives that are not well formed are left
out and none remains, errors are shown. No event belongs to a span, so a directive about a span, or
about the value of a field, shows nothing.
-/

namespace AppConfig
set_option autoImplicit false

/-- The level that a number on the command line stands for. -/
def LogLevel.ofNumber? : Nat → Option String
  | 10 => some "debug"
  | 20 => some "info"
  | 30 => some "warn"
  | 40 | 50 => some "error"
  | _ => none

/-! ## Levels -/

/-- How much is shown: the events up to a rank. -/
abbrev Rank := Nat

namespace Rank

def off : Rank := 0

def errors : Rank := LogLevel.error.rank

def all : Rank := LogLevel.trace.rank

/-- The rank that a number names, which may have a plus sign in front. -/
def ofNumber? (text : List Char) : Option Rank :=
  let digits := match text with
    | '+' :: rest => rest
    | _ => text
  if digits.isEmpty || !digits.all Number.isDigit then none
  else if Number.natural 0 digits ≤ all then some (Number.natural 0 digits)
  else none

/-- The rank that a text names by number or, in any case of the letters, by word. -/
def ofText? (text : List Char) : Option Rank :=
  match ofNumber? text with
  | some n => some n
  | none =>
    match String.ofList (text.map Char.toLower) with
    | "off" => some off
    | "error" => some errors
    | "warn" => some LogLevel.warn.rank
    | "info" => some LogLevel.info.rank
    | "debug" => some LogLevel.debug.rank
    | "trace" => some all
    | _ => none

end Rank

/-! ## Directives -/

/-- What a directive asks of a field: that it is there, or that it has a value as well. -/
structure FieldCondition where
  name : String
  hasValue : Bool
  deriving DecidableEq, Repr

/-- Up to which rank events are shown, of which parts of the program. -/
structure Directive where
  /-- How the names of the parts begin; without it, all parts. -/
  target : Option String := none
  /-- The span around the events. -/
  span : Option String := none
  fields : List FieldCondition := []
  rank : Rank := Rank.all
  deriving DecidableEq, Repr

/-- Why a text is no directive. -/
inductive DirectiveFault where
  | malformed
  | unknownLevel
  /-- The value of a field is neither a number nor a pattern that can be used. -/
  | unusableValue (fault : Pattern.Fault)
  deriving DecidableEq, Repr

def DirectiveFault.message : DirectiveFault → String
  | malformed => "invalid filter directive"
  | unknownLevel =>
    "error parsing level filter: expected one of \"off\", \"error\", \"warn\", \"info\", " ++
      "\"debug\", \"trace\", or a number 0-5"
  | unusableValue fault => s!"invalid field filter: {fault.message}"

namespace Directive

/-- The part of a directive that a reader is in, with the place where it starts: the number of octets
before it. -/
inductive Stage where
  | start
  | name (start : Nat)
  | span (start : Nat)
  | field (start : Nat)
  | afterFields
  | afterSpan
  | level (start : Nat)

/-- A character that the name in a directive may begin with. -/
def beginsName (c : Char) : Bool :=
  c = '-' || c = ':' || c = '_' || Text.isAlphanumeric c

/-- The part of a text between two places. -/
def slice (text : List Char) (first last : Nat) : List Char :=
  Text.dropOctets first (Text.takeOctets last text)

/-- Why a text is no value of a field: it is no number and no pattern. -/
def valueFault? (value : List Char) : Option Pattern.Fault :=
  if (Number.ofFloatText? value).isSome then none else Pattern.fault? value

/-- The condition that a text writes: a name, or a name and a value with an equals sign between.
What stands after another equals sign does not count. -/
def conditionOf (text : List Char) : Except DirectiveFault FieldCondition :=
  match Text.splitOn '=' text with
  | name :: value :: _ =>
    match valueFault? value with
    | some fault => .error (.unusableValue fault)
    | none => .ok ⟨String.ofList name, true⟩
  | _ => .ok ⟨String.ofList text, false⟩

/-- One character of a directive, at a place. Parts are cut out of `text`. -/
def step (text : List Char) (d : Directive) (stage : Stage) (place : Nat) (c : Char) :
    Except DirectiveFault (Directive × Stage) :=
  match stage with
  | .start =>
    if c = '[' then .ok (d, .span (place + 1))
    else if beginsName c then .ok (d, .name place)
    else .error .malformed
  | .name start =>
    let named := { d with target := some (String.ofList (slice text start place)) }
    if c = '=' then .ok (named, .level (place + 1))
    else if c = '[' then .ok (named, .span (place + 1))
    else .ok (d, stage)
  | .span start =>
    let name := slice text start place
    if c = ']' then .ok ({ d with span := some (String.ofList name) }, .afterSpan)
    else if c = '\x7b' then
      .ok ({ d with span := if name.isEmpty then none else some (String.ofList name) },
        .field (place + 1))
    else .ok (d, stage)
  | .field start =>
    if c = '\x7d' then
      match slice text start place with
      | [] => .error .malformed
      | field =>
        match conditionOf field with
        | .ok condition => .ok ({ d with fields := d.fields ++ [condition] }, .afterFields)
        | .error e => .error e
    else .ok (d, stage)
  | .afterFields => if c = ']' then .ok (d, .afterSpan) else .error .malformed
  | .afterSpan => if c = '=' then .ok (d, .level (place + 1)) else .error .malformed
  | .level _ => .ok (d, stage)

/-- The end of a directive. A name alone is a level if there is one of this name. -/
def finish (text : List Char) (d : Directive) : Stage → Except DirectiveFault Directive
  | .name start =>
    match Rank.ofText? (Text.dropOctets start text) with
    | some rank => .ok { d with rank }
    | none => .ok { d with target := some (String.ofList (Text.dropOctets start text)) }
  | .level start =>
    match Text.dropOctets start text with
    | [] => .ok d
    | level =>
      match Rank.ofText? level with
      | some rank => .ok { d with rank }
      | none => .error .unknownLevel
  | .afterSpan => .ok d
  | .start | .span _ | .field _ | .afterFields => .error .malformed

/-- The rest of a directive from a place on. -/
def scan (text : List Char) (d : Directive) (stage : Stage) (place : Nat) :
    List Char → Except DirectiveFault Directive
  | [] => finish text d stage
  | c :: rest =>
    match step text d stage place c with
    | .ok (d, stage) => scan text d stage (place + c.utf8Size) rest
    | .error e => .error e

/-- The directive that a text writes. The places of its marks are counted without the blanks
around the text, but its parts are cut from the text with them. -/
def ofText (text : List Char) : Except DirectiveFault Directive :=
  scan text {} .start 0 (Text.trimLeft (Text.trimLeft text).reverse).reverse

/-! ## Events -/

/-- The fields that every event has. -/
def eventFields : List String := ["message"]

/-- The directive is about the events of a part of the program. -/
def covers (d : Directive) (source : String) : Bool :=
  d.span.isNone && d.fields.all (fun f => !f.hasValue && eventFields.contains f.name)
    && (d.target.all fun t => t.toList.isPrefixOf source.toList)

/-- A directive is more specific by the length of its target, then by its fields. -/
def atMostAsSpecific (d e : Directive) : Bool :=
  let length (x : Directive) : Nat := (x.target.map fun t => t.length + 1).getD 0
  length d < length e || (length d = length e && d.fields.length ≤ e.fields.length)

end Directive

/-! ## Filters -/

/-- Which events are shown. -/
structure LogFilter where
  directives : List Directive
  deriving DecidableEq, Repr

namespace LogFilter

/-- The most specific directive about the events of a part, the last of equally specific ones. -/
def decisive? (f : LogFilter) (source : String) : Option Directive :=
  (f.directives.filter fun d => d.covers source).foldl
    (fun best d => if best.all fun b => b.atMostAsSpecific d then some d else best) none

/-- Up to which rank the events of a part are shown. -/
def rankOf (f : LogFilter) (source : String) : Rank :=
  ((f.decisive? source).map (·.rank)).getD Rank.off

def shows (f : LogFilter) (level : LogLevel) (source : String) : Bool :=
  level.rank ≤ f.rankOf source

/-- The texts of the directives in a text, with commas between. -/
def pieces (text : String) : List (List Char) :=
  (Text.splitOn ',' text.toList).filter (· ≠ [])

/-- The filter that a text writes, if all its directives are well formed. -/
def ofText? (text : String) : Option LogFilter :=
  match (pieces text).mapM Directive.ofText with
  | .ok directives => some ⟨directives⟩
  | .error _ => none

/-- What is said about a text that is no directive. -/
def notice (piece : List Char) (e : DirectiveFault) : String :=
  s!"ignoring `{String.ofList piece}`: {e.message}"

/-- The filter of some directives; without any, it shows errors. -/
def orErrors (directives : List Directive) : LogFilter :=
  ⟨if directives.isEmpty then [{ rank := Rank.errors }] else directives⟩

/-- The filter of the directives in a text that are well formed, and what is said about the
others. -/
def ofTextLossy (text : String) : LogFilter × List String :=
  let results := (pieces text).map fun piece => (piece, Directive.ofText piece)
  (orErrors (results.filterMap fun r => r.2.toOption),
    results.filterMap fun r =>
      match r.2 with
      | .ok _ => none
      | .error e => some (notice r.1 e))

end LogFilter
end AppConfig

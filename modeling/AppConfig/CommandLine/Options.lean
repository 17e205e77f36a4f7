import AppConfig.Number.Text
import AppConfig.Text.Split

/-! # Arguments of the command line

* `Options`: what a run is asked to do; `Invocation`: a run, or a request for help or the version.
* `Invocation.ofArguments`: arguments from left to right. A value stands in the argument of its
  option or in the next one; no option may be given twice.
* `UsageFault`: the first argument that cannot be taken.
-/

namespace AppConfig
set_option autoImplicit false

/-- What a run is asked to do. -/
structure Options where
  logLevel : Option Nat := none
  input : Option String := none
  output : Option String := none
  settings : Option String := none
  dump : Bool := false
  deriving DecidableEq, Repr

/-- The options that take a value. -/
inductive ValueOption where
  | logLevel
  | input
  | output
  | settings
  deriving DecidableEq, Repr

/-- Why the arguments cannot be taken. -/
inductive UsageFault where
  | unexpected (argument : String)
  | repeated (option : String)
  | missingValue (option : String)
  | invalidValue (value : String) (option : String)
  deriving DecidableEq, Repr

def UsageFault.message : UsageFault → String
  | unexpected argument => s!"unexpected argument '{argument}' found"
  | repeated option => s!"the argument '{option}' cannot be used multiple times"
  | missingValue option => s!"a value is required for '{option}' but none was supplied"
  | invalidValue value option => s!"invalid value '{value}' for '{option}'"

/-- What a command line asks for. -/
inductive Invocation where
  | run (options : Options)
  | help
  | version
  deriving DecidableEq, Repr

namespace ValueOption

/-- The option as messages show it. -/
def display : ValueOption → String
  | logLevel => "--loglevel <LOGLEVEL>"
  | input => "--input <INPUT>"
  | output => "--output <OUTPUT>"
  | settings => "--config <CONFIG>"

/-- The option with a long name. -/
def ofName? (name : String) : Option ValueOption :=
  match name with
  | "loglevel" => some logLevel
  | "input" => some input
  | "output" => some output
  | "config" => some settings
  | _ => none

/-- The option with a short name. -/
def ofLetter? : Char → Option ValueOption
  | 'i' => some input
  | 'o' => some output
  | _ => none

/-- The most that the level of the log may be. -/
def levelLimit : Int := 255

def setOnce (option : ValueOption) (earlier : Option String) (value : String) :
    Except UsageFault (Option String) :=
  if earlier.isSome then .error (.repeated option.display) else .ok (some value)

/-- The options with the value of one more. -/
def set (option : ValueOption) (value : String) (o : Options) : Except UsageFault Options :=
  match option with
  | input => return { o with input := ← setOnce option o.input value }
  | settings => return { o with settings := ← setOnce option o.settings value }
  | output =>
    if value.isEmpty then .error (.missingValue option.display)
    else return { o with output := ← setOnce option o.output value }
  | logLevel =>
    match Number.ofInt64Text? value.toList with
    | some n =>
      if 0 ≤ n ∧ n ≤ levelLimit then
        if o.logLevel.isSome then .error (.repeated option.display)
        else .ok { o with logLevel := some n.toNat }
      else .error (.invalidValue value option.display)
    | none => .error (.invalidValue value option.display)

end ValueOption

namespace Invocation

/-- What one argument does: the options after it, and the option that the next one is the value
of; or an invocation that needs no further arguments. -/
inductive Step where
  | go (options : Options) (pending : Option ValueOption)
  | done (invocation : Invocation)

/-- A long option, with the value that stands in its argument. -/
def longOption (o : Options) (name : String) (value : Option String) : Except UsageFault Step :=
  match name, value with
  | "dump-ir", none =>
    if o.dump then .error (.repeated "--dump-ir") else .ok (.go { o with dump := true } none)
  | "help", none => .ok (.done .help)
  | "version", none => .ok (.done .version)
  | name, value =>
    match ValueOption.ofName? name with
    | none => .error (.unexpected s!"--{name}")
    | some option =>
      match value with
      | some v => return .go (← option.set v o) none
      | none => .ok (.go o (some option))

/-- A short option, with what follows its letter in the argument. -/
def shortOption (o : Options) (letter : Char) (rest : List Char) : Except UsageFault Step :=
  match letter with
  | 'h' => .ok (.done .help)
  | 'V' => .ok (.done .version)
  | _ =>
    match ValueOption.ofLetter? letter with
    | none => .error (.unexpected (String.ofList ['-', letter]))
    | some option =>
      match rest with
      | [] => .ok (.go o (some option))
      | '=' :: value => return .go (← option.set (String.ofList value) o) none
      | value => return .go (← option.set (String.ofList value) o) none

/-- An argument that begins like an option, when no value is due. -/
def takeOption (o : Options) (argument : List Char) : Except UsageFault Step :=
  match argument with
  | '-' :: '-' :: text =>
    let (name, value) := Text.cut '=' text
    longOption o (String.ofList name) (value.map String.ofList)
  | '-' :: letter :: rest => shortOption o letter rest
  | _ => .error (.unexpected (String.ofList argument))

/-- The argument begins like an option, so it is no value. -/
def isOption : List Char → Bool
  | '-' :: _ :: _ => true
  | _ => false

/-- The rest of the arguments. -/
def arguments (o : Options) (pending : Option ValueOption) :
    List String → Except UsageFault Invocation
  | [] =>
    match pending with
    | some option => .error (.missingValue option.display)
    | none => .ok (.run o)
  | argument :: rest =>
    match pending with
    | some option =>
      if isOption argument.toList then .error (.missingValue option.display)
      else
        match option.set argument o with
        | .ok o => arguments o none rest
        | .error e => .error e
    | none =>
      if argument = "--" then
        match rest with
        | [] => .ok (.run o)
        | next :: _ => .error (.unexpected next)
      else
        match takeOption o argument.toList with
        | .error e => .error e
        | .ok (.done invocation) => .ok invocation
        | .ok (.go o pending) => arguments o pending rest

/-- What the arguments ask for. -/
def ofArguments (args : List String) : Except UsageFault Invocation :=
  arguments {} none args

end Invocation
end AppConfig

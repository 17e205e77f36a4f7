import AppConfig.Files.Path
import AppConfig.Json.Printer
import AppConfig.Settings.Toml.Quoted
import AppConfig.Settings.Toml.Reader

/-! # Tool settings

* `Settings`: how the tool logs and where and how it writes.
* `Settings.ofTable?`: the settings that a merged table stands for; what it leaves out has a
  default, and keys that no setting has are ignored.
* `Settings.save`: the settings as a file, which reads back as the same settings.
* `Settings.logFile`: the file that is logged to, if any.
-/

namespace AppConfig
set_option autoImplicit false

structure LogSettings where
  /-- The least important events that are shown. -/
  level : String := "info"
  directory : Option Path := none
  /-- Whether a file is logged to as well. -/
  toFile : Bool := false
  deriving DecidableEq, Repr

structure OutputSettings where
  /-- Where generated files go unless the command line says so. -/
  directory : Option Path := none
  layout : Layout := .pretty
  deriving DecidableEq, Repr

/-- The settings of the tool. -/
structure Settings where
  logging : LogSettings := {}
  output : OutputSettings := {}
  deriving DecidableEq, Repr

namespace Settings

/-! ## From tables -/

/-- A layout by its name, in any case. -/
def layoutOfName? (name : String) : Option Layout :=
  match Setting.foldKey name with
  | "pretty" => some .pretty
  | "compact" => some .compact
  | _ => none

/-- A layout, named by a text or by the only key of a table. -/
def layout? : Setting → Option Layout
  | .text s => layoutOfName? s
  | .table [(name, _)] => layoutOfName? name
  | _ => none

/-- The value of an optional setting, read if it is there. -/
def read? {α : Type} (f : Setting → Option α) (default : α) : Option Setting → Option α
  | none => some default
  | some v => f v

/-- A path, if there is one. -/
def path? : Setting → Option (Option Path)
  | .nothing => some none
  | v => v.text?.map fun s => some ⟨s⟩

/-- A group of settings by key or, in a list, by place. -/
def member (v : Setting) (key : String) (place : Nat) : Option (Option Setting) :=
  match v with
  | .table es => some (es.lookup key)
  | .list items => some items[place]?
  | _ => none

def logging? (v : Setting) : Option LogSettings := do
  let level ← read? Setting.text? "info" (← member v "level" 0)
  let directory ← read? path? none (← member v "log_dir" 1)
  let toFile ← read? Setting.flag? false (← member v "log_to_file" 2)
  return { level, directory, toFile }

def output? (v : Setting) : Option OutputSettings := do
  let directory ← read? path? none (← member v "dir" 0)
  let layout ← read? layout? .pretty (← member v "format" 1)
  return { directory, layout }

/-- The settings that a table stands for. -/
def ofTable? (table : Setting) : Option Settings := do
  let logging ← read? logging? {} (table.entries.lookup "logging")
  let output ← read? output? {} (table.entries.lookup "output")
  return { logging, output }

/-! ## As a file -/

def layoutName : Layout → String
  | .pretty => "pretty"
  | .compact => "compact"

def textLine (key value : String) : String := s!"{key} = {Toml.quoted value}\n"

def pathLine (key : String) : Option Path → String
  | some p => textLine key p.text
  | none => ""

/-- The settings as a file. -/
def save (s : Settings) : String :=
  "[logging]\n" ++ textLine "level" s.logging.level ++ pathLine "log_dir" s.logging.directory
    ++ s!"log_to_file = {s.logging.toFile}\n" ++ "\n[output]\n"
    ++ pathLine "dir" s.output.directory ++ textLine "format" (layoutName s.output.layout)

/-- The settings of a file. -/
def ofFile? (text : String) : Option Settings := do
  ofTable? (← Toml.read? text.toList)

/-! ## The log file -/

def logFileName : Path := ⟨"wolfes_cg.log"⟩

/-- The file that is logged to. -/
def logFile (s : Settings) (home : Option Path) : Option Path :=
  if s.logging.toFile then
    (s.logging.directory.or (home.map fun home => home.join ⟨"tmp"⟩)).map fun dir =>
      dir.join logFileName
  else none

end Settings
end AppConfig

import AppConfig.Files.Host
import AppConfig.Settings.Basic
import AppConfig.Text.Utf8

/-! # Where settings come from

* `Environment`: the variables of a run and their values.
* `Settings.load`: the settings of all sources, a later one over an earlier one: two files in the
  working directory, one in the directory for the settings of the user, the file that the caller
  names, and the environment.
* `SettingsFault`: why there are no settings.

Only the file that the caller names has to exist and to be a text. Any file that is read has to be
well formed.
-/

namespace AppConfig
set_option autoImplicit false

/-- The variables of a run and their values. -/
abbrev Environment := List (String × String)

/-- The environment of a block of entries, each of which ends in a NUL and has its name before the
first equals sign. -/
def Environment.ofBlock (block : List Char) : Environment :=
  (Text.splitOn '\x00' block).filterMap fun entry =>
    match Text.cut '=' entry with
    | (name, some value) => some (String.ofList name, String.ofList value)
    | (_, none) => none

/-- Why there are no settings. -/
inductive SettingsFault where
  | notFound (name : String)
  | unknownFormat (name : String)
  | notText (name : String)
  | malformed (name : String)
  | wrongValue
  deriving DecidableEq, Repr

def SettingsFault.message : SettingsFault → String
  | notFound name => s!"configuration file \"{name}\" not found"
  | unknownFormat name => s!"configuration file \"{name}\" is not of a registered file format"
  | notText name => s!"configuration file \"{name}\" is not UTF-8"
  | malformed name => s!"configuration file \"{name}\" is malformed"
  | wrongValue => "a setting has a value of the wrong kind"

namespace Settings

/-! ## Files -/

def isFile (h : Host) (p : Path) : Bool := (h.read p).isOk

/-- The part of a name after its last dot, unless nothing stands before that dot. -/
def extension? (name : List Char) : Option (List Char) :=
  match (Text.splitOn '.' name).reverse with
  | _ :: [[]] => none
  | last :: _ :: _ => some last
  | _ => none

/-- The last step of the path has this extension. -/
def hasExtension (extension : String) (p : Path) : Bool :=
  (p.steps.getLast?.bind extension?) = some extension.toList

/-- How the name of a file of settings ends. -/
def fileEnding : String := ".toml"

/-- The file of settings with a name: that file, or the one with the ending added to the name. -/
def find (h : Host) (name : String) : Except SettingsFault Path :=
  let exact : Path := ⟨name⟩
  if isFile h exact then
    if hasExtension "toml" exact then .ok exact else .error (.unknownFormat name)
  else
    match (exact.withEnding? fileEnding).filter (isFile h) with
    | some longer => .ok longer
    | none => .error (.notFound name)

/-- The text of the file of settings with a name. -/
def readText (h : Host) (name : String) : Except SettingsFault (List Char) := do
  match h.read (← find h name) with
  | .error _ => .error (.notFound name)
  | .ok octets => (Text.Utf8.decode octets).mapError fun _ => .notText name

/-- The settings that the text of a file writes, over what came before. -/
def addText (name : String) (text : List Char) (table : Setting) : Except SettingsFault Setting :=
  match Toml.read? text with
  | some file => .ok (Setting.setAll file.entries table)
  | none => .error (.malformed name)

/-- A file that has to exist, over what came before. -/
def addFile (h : Host) (name : String) (table : Setting) : Except SettingsFault Setting := do
  addText name (← readText h name) table

/-- A file that may be missing, or be no text, over what came before. -/
def addOptional (h : Host) (name : String) (table : Setting) : Except SettingsFault Setting :=
  match readText h name with
  | .error _ => .ok table
  | .ok text => addText name text table

/-! ## The environment -/

/-- What the names of variables for settings begin with, in any case. -/
def variablePrefix : String := "wolfes_cg__"

/-- The text with a dot for each pair of underscores. -/
def dotted : List Char → List Char
  | '_' :: '_' :: rest => '.' :: dotted rest
  | c :: rest => c :: dotted rest
  | [] => []

/-- The key that a variable sets. -/
def variableKey? (name : String) : Option String :=
  let name := name.toList.map Char.toLower
  if variablePrefix.toList.isPrefixOf name then
    some (String.ofList (dotted (name.drop variablePrefix.length)))
  else none

/-- The environment over what came before. -/
def addEnvironment (environment : Environment) (table : Setting) : Setting :=
  environment.foldl
    (fun t (name, value) =>
      match variableKey? name with
      | some key => Setting.set key (.ofVariable value) t
      | none => t)
    table

/-- The directory for the settings of the user. -/
def userDirectory (home : Path) (environment : Environment) : Path :=
  match environment.lookup "XDG_CONFIG_HOME" with
  | some dir => if Path.isAbsolute ⟨dir⟩ then ⟨dir⟩ else home.join ⟨".config"⟩
  | none => home.join ⟨".config"⟩

/-- The file with the settings of the user, who has none without a home directory. -/
def userFile? (home : Option Path) (environment : Environment) : Option Path :=
  home.map fun home =>
    ((userDirectory home environment).join ⟨"wolfes_cg"⟩).join ⟨"wolfes_cg.toml"⟩

/-! ## All sources -/

/-- The files of settings in the working directory, the later one over the earlier. -/
def workingFiles : List String := ["wolfes_cg.toml", ".wolfes_cg.toml"]

/-- The merged table of the files that nobody names. -/
def gatherUnnamed (h : Host) (environment : Environment) : Except SettingsFault Setting := do
  let table ← workingFiles.foldlM (fun table name => addOptional h name table) (.table [])
  match userFile? h.home environment with
  | some user => if h.isPresent user then addOptional h user.text table else return table
  | none => return table

/-- The merged table of all sources. -/
def gather (h : Host) (environment : Environment) (named : Option String) :
    Except SettingsFault Setting := do
  let table ← gatherUnnamed h environment
  match named with
  | some name => return addEnvironment environment (← addFile h name table)
  | none => return addEnvironment environment table

/-- The settings of all sources. -/
def load (h : Host) (environment : Environment) (named : Option String) :
    Except SettingsFault Settings := do
  match ofTable? (← gather h environment named) with
  | some s => .ok s
  | none => .error .wrongValue

end Settings
end AppConfig

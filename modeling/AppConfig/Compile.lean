import AppConfig.Document.Reader
import AppConfig.Text.Lines
import AppConfig.Text.Utf8
import AppConfig.Validation

/-! # Compiling documents

* `decode`: the JSON value of a text without its comment lines.
* `loadDocument`: the text at a path; `LoadedDocument.baseDir`: the directory it stands in.
* `compileText`, `compileFile`: the plan that a text or a file describes, validated.
-/

namespace AppConfig
set_option autoImplicit false

/-! ## Texts -/

/-- The JSON value of a text without its comment lines. -/
def decode (text : String) : Outcome Json :=
  match Json.decode (Text.uncomment text.toList) with
  | .error issue => .fail (.malformed issue)
  | .ok v => do
    .log (.documentDecoded v)
    return v

/-- The plan of a JSON value, validated. -/
def compileValue (site : Site) (v : Json) : Outcome Plan := do
  let plan ← Document.readDocument site v
  plan.validate
  return plan

/-- The plan that a text describes, seen from a directory. -/
def compileText (host : Host) (base : Option Path) (text : String) : Outcome Plan := do
  compileValue (host.site base) (← decode text)

/-! ## Files -/

/-- The least number of characters in the path of a document. -/
def minPathLength : Nat := 4

/-- The least number of characters in a document. -/
def minTextLength : Nat := 2

/-- A document and the path it was read from. -/
structure LoadedDocument where
  path : Path
  text : String
  deriving DecidableEq, Repr

/-- The directory of a document, if its path names one. -/
def LoadedDocument.baseDir (d : LoadedDocument) : Option Path :=
  d.path.parent?.filter fun dir => !dir.isEmpty

/-- A path with the home directory in place of `~`, with a note where that changes it. -/
def expandNoted (home : Option Path) (path : Path) : Outcome Path := do
  .ofExcept (path.requireHome home)
  let resolved := path.expandHome home
  if resolved ≠ path then
    .note ⟨.root, .homeExpanded, s!"expanded \"{path.text}\" to {resolved.text}"⟩
  return resolved

/-- The text of octets that stand at a path. -/
def textOfOctets (path : Path) (octets : List UInt8) : Except Fault String :=
  match Text.Utf8.decode octets with
  | .error m => .error (.fileInvalid s!"{path.text} is not valid UTF-8: {m.describe}")
  | .ok chars =>
    if chars.length < minTextLength then
      .error (.fileInvalid s!"{path.text} is too short ({chars.length} characters)")
    else .ok (String.ofList chars)

/-- The document at a path. -/
def loadDocument (host : Host) (path : Path) : Outcome LoadedDocument :=
  if path.chars.length < minPathLength then
    .fail (.invalidArgument s!"config file path \"{path.text}\" is too short")
  else do
    let resolved ← expandNoted host.home path
    if !host.isPresent resolved then .fail (.fileNotFound resolved)
    else do
      let octets ← .ofExcept ((host.read resolved).mapError .io)
      let text ← .ofExcept (textOfOctets resolved octets)
      .log (.fileRead octets.length resolved)
      return { path := resolved, text }

/-- The plan that the file at a path describes. -/
def compileFile (host : Host) (path : Path) : Outcome Plan := do
  let document ← loadDocument host path
  let plan ← compileText host document.baseDir document.text
  .log (.compiled document.path plan.summary.display)
  return plan

end AppConfig

import AppConfig.Compile
import AppConfig.Document.Recording

/-! # Sessions

* `Recording.compileText`, `.compileFile`, `.loadDocument`: what a caller may ask for, on the
  diagnostics of the caller.
* `Session`: the diagnostics of all requests so far; `Session.perform`: a run on them.
* `Session.stepwise`: one thing after the other on one session.
* `Request`: what a caller may ask for; `Answer`: what it gets.
* `Session.step`, `Session.run`: a request, and requests one after the other.
-/

namespace AppConfig
set_option autoImplicit false

/-! ## Texts and files on the diagnostics of a caller -/

namespace Recording

/-- The JSON value of a text without its comment lines. -/
def decode (text : String) : Recording Json := ofExcept (AppConfig.decode text).result

/-- The plan of a JSON value, validated. -/
def compileValue (site : Site) (v : Json) : Recording Plan := do
  let plan ← readDocument site v
  ofExcept plan.validate.result
  return plan

/-- The plan that a text describes, seen from a directory. -/
def compileText (host : Host) (base : Option Path) (text : String) : Recording Plan := do
  compileValue (host.site base) (← decode text)

/-- A path with the home directory in place of `~`, with a note where that changes it. -/
def expandNoted (home : Option Path) (path : Path) : Recording Path := do
  ofExcept (path.requireHome home)
  let resolved := path.expandHome home
  if resolved ≠ path then
    note ⟨.root, .homeExpanded, s!"expanded \"{path.text}\" to {resolved.text}"⟩
  return resolved

/-- The document at a path. -/
def loadDocument (host : Host) (path : Path) : Recording LoadedDocument :=
  if path.chars.length < minPathLength then
    throw (.invalidArgument s!"config file path \"{path.text}\" is too short")
  else do
    let resolved ← expandNoted host.home path
    if !host.isPresent resolved then throw (.fileNotFound resolved)
    else do
      let octets ← ofExcept ((host.read resolved).mapError .io)
      let text ← ofExcept (textOfOctets resolved octets)
      return { path := resolved, text }

/-- The plan that the file at a path describes. -/
def compileFile (host : Host) (path : Path) : Recording Plan := do
  let document ← loadDocument host path
  compileText host document.baseDir document.text

end Recording

/-! ## Sessions -/

/-- The diagnostics of all requests so far. -/
structure Session where
  diagnostics : Diagnostics

namespace Session

variable {α ρ β : Type}

def empty : Session := ⟨[]⟩

/-- A run on the diagnostics of the session: the session after it, and its result. -/
def perform (s : Session) (x : Recording α) : Session × Except Fault α :=
  let (result, diagnostics) := x.run.run s.diagnostics
  (⟨diagnostics⟩, result)

/-- One thing after the other: the session after each, and what came of it. -/
def stepwise (f : Session → ρ → Session × β) : Session → List ρ → List (Session × β)
  | _, [] => []
  | s, r :: rest =>
    let next := f s r
    next :: stepwise f next.1 rest

/-- The session that the first steps leave to the one after them. -/
def before (f : Session → ρ → Session × β) (s : Session) (rs : List ρ) (i : Nat) : Session :=
  (rs.take i).foldl (fun s r => (f s r).1) s

/-- The session after all steps, and what came of each of them. -/
def performAll (f : Session → ρ → Session × β) (s : Session) (rs : List ρ) : Session × List β :=
  (before f s rs rs.length, (stepwise f s rs).map Prod.snd)

end Session

/-! ## Requests -/

/-- What a caller may ask for. -/
inductive Request where
  /-- The validated plan of a text, seen from a directory. -/
  | compile (text : String) (base : Option Path)
  /-- The validated plan of a file. -/
  | compileFile (path : Path)
  /-- The text of a file. -/
  | load (path : Path)
  /-- The plans of several documents, seen from one directory and not validated. -/
  | build (base : Option Path) (documents : List Json)
  /-- The plans of several texts, not validated. -/
  | read (texts : List String)

/-- What a caller gets. -/
inductive Answer where
  | plan (result : Except Fault Plan)
  | document (result : Except Fault LoadedDocument)
  | plans (results : List (Except Fault Plan))

namespace Session

/-- The plan of a document, seen from a directory and not validated. -/
def build (host : Host) (base : Option Path) (s : Session) (document : Json) :
    Session × Except Fault Plan :=
  s.perform (Recording.readDocument (host.site base) document)

/-- The plan of a text, seen from the working directory and not validated. -/
def readText (host : Host) (s : Session) (text : String) : Session × Except Fault Plan :=
  s.perform do Recording.readDocument (host.site none) (← Recording.decode text)

/-- One more request: the session after it, and its answer. -/
def step (host : Host) (s : Session) : Request → Session × Answer
  | .compile text base => (s.perform (Recording.compileText host base text)).map id .plan
  | .compileFile path => (s.perform (Recording.compileFile host path)).map id .plan
  | .load path => (s.perform (Recording.loadDocument host path)).map id .document
  | .build base documents => (performAll (build host base) s documents).map id .plans
  | .read texts => (performAll (readText host) s texts).map id .plans

/-- Requests in order: the session after each, and its answer. -/
def run (host : Host) : Session → List Request → List (Session × Answer) := stepwise (step host)

end Session
end AppConfig

import AppConfig.CommandLine.Run

/-! # What a run looks at

The disk of a machine may be a part of a larger tree, filled in as the run needs it.

* `Reach`: paths whose content a run reads, and paths of which it only asks whether they exist.
* `CommandLine.reach`: the reach of a run, as far as its disk tells.

The settings name the document, and the document names further files. So on a disk that holds
the reach of the disk before, the reach is larger at most twice: with the settings at hand the
document comes into reach, and with the document its references do.
-/

namespace AppConfig
set_option autoImplicit false

/-- What a run looks at. -/
structure Reach where
  /-- The paths whose content is read. -/
  read : List Path
  /-- The paths that are asked about. -/
  asked : List Path

namespace CommandLine

/-- How often a disk is filled in until it holds all that a run looks at. -/
def reachRounds : Nat := 3

/-- The files that settings may come from. -/
def settingsPaths (m : Machine) (named : Option String) : List Path :=
  let user := (Settings.userFile? m.home? m.environment).map Path.text
  let names := Settings.workingFiles ++ user.toList ++ named.toList
  (names.map Path.mk).flatMap fun p => p :: (p.withEnding? Settings.fileEnding).toList

/-- The files that a document may refer to. -/
def referencePaths (m : Machine) (input : Path) : List Path :=
  match (loadDocument m.host input).result with
  | .error _ => []
  | .ok document =>
    match (decode document.text).result with
    | .error _ => []
    | .ok v => v.texts.map fun text => Path.resolve m.home? document.baseDir ⟨text⟩

/-- The paths that a run writes to. -/
def writtenPaths (m : Machine) (o : Options) : List Path :=
  match Settings.load m.host m.environment o.settings with
  | .error _ => []
  | .ok s => (s.logFile m.home?).toList ++ (outputPath s o).toList

/-- What a run with its options looks at. -/
def reachOf (m : Machine) (o : Options) : Reach where
  read := settingsPaths m o.settings ++ o.input.toList.map fun p => Path.expandHome ⟨p⟩ m.home?
  asked := writtenPaths m o ++ o.input.toList.flatMap fun p => referencePaths m ⟨p⟩

/-- What a run with some arguments looks at. -/
def reach (m : Machine) (args : List String) : Reach :=
  match Invocation.ofArguments args with
  | .ok (.run o) => reachOf m o
  | _ => ⟨[], []⟩

end CommandLine
end AppConfig

import AppConfig.Files.Host

/-! # Directory trees

* `Disk`: files and directories by their steps from the root, and the working directory.
* `Disk.locate`: the steps from the root that a path leads to.
* `Disk.read`: the octets of a file.
* `Disk.makeDirs`: makes a directory and those around it, where they are missing.
* `Disk.writeFile`: makes a file, or replaces the content of the one that is there.
* `Disk.host`: the tree as a machine, with a home directory if there is one.

A path leads somewhere only if each step but the last leads to a directory; a slash at the end
asks for a directory as well.
-/

namespace AppConfig
set_option autoImplicit false

/-- What stands at a place in the tree. -/
inductive Content where
  | directory
  | file (octets : List UInt8)
  deriving DecidableEq, Repr

/-- A tree of directories: what stands at which steps from the root, and the working
directory. -/
structure Disk where
  entries : List (List String × Content)
  working : List String

namespace Disk

/-- What stands at the steps; the root is a directory. -/
def at? (d : Disk) (place : List String) : Option Content :=
  if place.isEmpty then some .directory else d.entries.lookup place

/-- Puts something at a place. -/
def put (d : Disk) (place : List String) (content : Content) : Disk :=
  { d with entries := d.entries.filter (fun e => e.1 ≠ place) ++ [(place, content)] }

/-- Puts a directory at a place and at the places above it, where nothing stands. -/
def putDirs (d : Disk) (place : List String) : Disk :=
  (List.range place.length).foldl
    (fun d n =>
      let above := place.take (n + 1)
      if (d.at? above).isSome then d else d.put above .directory)
    d

/-- Puts a file at a place and directories above it. -/
def putFile (d : Disk) (place : List String) (octets : List UInt8) : Disk :=
  (d.putDirs place.dropLast).put place (.file octets)

/-! ## Paths -/

/-- The most octets in the name of a file. -/
def nameLimit : Nat := 255

/-- The number of octets from which on a path is too long. -/
def pathLimit : Nat := 4096

/-- The step from a directory to a name in it. -/
def enter (d : Disk) (place : List String) (name : String) : Except IoFault (List String) :=
  match d.at? place with
  | some .directory =>
    if name = "" ∨ name = "." then .ok place
    else if name = ".." then .ok place.dropLast
    else if nameLimit < name.utf8ByteSize then .error .nameTooLong
    else if (d.at? (place ++ [name])).isSome then .ok (place ++ [name])
    else .error .notFound
  | some (.file _) => .error .notADirectory
  | none => .error .notFound

/-- The steps of a path as names, if the system takes the path at all. -/
def names (p : Path) : Except IoFault (List String) :=
  if p.isEmpty then .error .notFound
  else if p.chars.contains '\x00' then .error .nulInName
  else if pathLimit ≤ p.text.utf8ByteSize then .error .nameTooLong
  else .ok (p.steps.map String.ofList)

/-- Where a path begins. -/
def origin (d : Disk) (p : Path) : List String :=
  if p.isAbsolute then [] else d.working

/-- The place that a path leads to. -/
def locate (d : Disk) (p : Path) : Except IoFault (List String) := do
  (← names p).foldlM d.enter (d.origin p)

def isPresent (d : Disk) (p : Path) : Bool := (d.locate p).isOk

def isDirectory (d : Disk) (p : Path) : Bool :=
  match d.locate p with
  | .ok place => d.at? place = some .directory
  | .error _ => false

def read (d : Disk) (p : Path) : Except IoFault (List UInt8) := do
  match d.at? (← d.locate p) with
  | some (.file octets) => .ok octets
  | some .directory => .error .isADirectory
  | none => .error .notFound

/-! ## Making files and directories -/

/-- The place above a path and the name there. -/
def target (d : Disk) (p : Path) : Except IoFault (List String × String) := do
  match ((← names p).reverse.dropWhile (· = "")) with
  | [] => .error .alreadyExists
  | name :: above =>
    let place ← above.reverse.foldlM d.enter (d.origin p)
    -- The place must be a directory, as for a path that goes on from it.
    return (← d.enter place "", name)

/-- Makes a directory. -/
def makeDir (d : Disk) (p : Path) : Except IoFault Disk := do
  let (place, name) ← d.target p
  match d.enter place name with
  | .ok _ => .error .alreadyExists
  | .error .notFound => .ok (d.put (place ++ [name]) .directory)
  | .error e => .error e

/-- A path and the paths above it, at most `count` of them. -/
def ancestors : Nat → Path → List Path
  | 0, _ => []
  | count + 1, p =>
    match p.parent? with
    | none => [p]
    | some above => p :: ancestors count above

/-- A directory that could not be made is good enough if it is there. -/
def settle (d : Disk) (p : Path) (fault : IoFault) : Disk × Except IoFault Unit :=
  (d, if d.isDirectory p then .ok () else .error fault)

/-- Makes the first directory of the list, after those that follow it where they are missing. A
fault leaves what has been made before it. -/
def makeChain (d : Disk) : List Path → Disk × Except IoFault Unit
  | [] => (d, .error (.other "failed to create whole tree"))
  | p :: above =>
    if p.isEmpty then (d, .ok ())
    else
      match d.makeDir p with
      | .ok d => (d, .ok ())
      | .error .notFound =>
        match makeChain d above with
        | (d, .error fault) => (d, .error fault)
        | (d, .ok ()) =>
          match d.makeDir p with
          | .ok d => (d, .ok ())
          | .error fault => d.settle p fault
      | .error fault => d.settle p fault

/-- Makes a directory and those around it, where they are missing. -/
def makeDirs (d : Disk) (p : Path) : Disk × Except IoFault Unit :=
  d.makeChain (ancestors (p.chars.length + 1) p)

/-- Makes a file with some content, or replaces the content of the one that is there. -/
def writeFile (d : Disk) (p : Path) (octets : List UInt8) : Except IoFault Disk := do
  let (place, name) ← d.target p
  match d.enter place name with
  | .ok found =>
    match d.at? found with
    | some (.file _) => .ok (d.put found (.file octets))
    | _ => .error .isADirectory
  | .error .notFound =>
    if p.chars.getLast? = some '/' then .error .isADirectory
    else .ok (d.put (place ++ [name]) (.file octets))
  | .error e => .error e

/-- The tree as a machine. -/
def host (d : Disk) (home : Option Path) : Host :=
  ⟨home, d.isPresent, d.read⟩

end Disk
end AppConfig

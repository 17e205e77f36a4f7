import AppConfig.CommandLine.Reach
import Std.Time

/-! # The program

Fills in a disk with what a run looks at, runs, and carries out what the run leaves.
-/

namespace AppConfig.Program
set_option autoImplicit false

/-- The text of a place for the system. -/
def textOf (place : List String) : String := "/" ++ "/".intercalate place

/-- What stands at a place; without `whole`, a file is taken for empty. -/
def look (whole : Bool) (place : List String) : IO (Option Content) := do
  try
    let real ← IO.FS.realPath (textOf place)
    if ← real.isDir then return some .directory
    if whole then return some (.file (← IO.FS.readBinFile real).toList)
    if ← real.pathExists then return some (.file [])
    return none
  catch _ => return none

/-- Fills in what stands on the way of a path. -/
def fill (whole : Bool) (disk : Disk) (p : Path) : IO Disk := do
  let mut disk := disk
  let mut place := disk.origin p
  for step in p.steps do
    if step = ['.', '.'] then
      place := place.dropLast
    else if !Path.isIdle step then
      place := place ++ [String.ofList step]
      if (disk.at? place).isNone then
        match ← look whole place with
        | some content => disk := disk.put place content
        | none => return disk
  return disk

/-- Fills in what a run looks at, as far as it is known. -/
def fillReach (m : Machine) (args : List String) : IO Machine := do
  let reach := CommandLine.reach m args
  let disk ← reach.read.foldlM (fill true) m.disk
  return { m with disk := ← reach.asked.foldlM (fill false) disk }

/-- The environment of the process. -/
def environment : IO Environment := do
  let block ← IO.FS.readBinFile "/proc/self/environ"
  return .ofBlock (Text.Utf8.decodeAll block.toList)

/-- The home directory of a user, by number, in a list of users with a line for each. -/
def homeIn? (users user : List Char) : Option Path :=
  (Text.splitOn '\n' users).findSome? fun line =>
    match Text.splitOn ':' line with
    | [_, _, number, _, _, home, _] => if number = user then some (.ofChars home) else none
    | _ => none

/-- The number of the user that the process runs for, in what the system tells of the process. -/
def userIn (status : List Char) : List Char :=
  let number := (Text.splitOn '\n' status).findSome? fun line =>
    match Text.splitOn '\t' line with
    | ['U', 'i', 'd', ':'] :: number :: _ => some number
    | _ => none
  number.getD []

def contentOf (file : String) : IO (List Char) := do
  try
    let octets ← IO.FS.readBinFile file
    return Text.Utf8.decodeAll octets.toList
  catch _ => return []

/-- The home directory that the environment names, or else the list of users. -/
def home (environment : Environment) : IO Path := do
  match environment.lookup "HOME" with
  | some name => if !name.isEmpty then return ⟨name⟩
  | none => pure ()
  let user := userIn (← contentOf "/proc/self/status")
  return (homeIn? (← contentOf "/etc/passwd") user).getD ⟨""⟩

/-- The time of day at Greenwich, to the microsecond. -/
def timeNow : IO String := do
  let now := Std.Time.DateTime.ofTimestampWithZone (← Std.Time.Timestamp.now) .UTC
  return now.format "uuuu-MM-dd" ++ "T" ++ now.format "HH:mm:ss.SSSSSS" ++ "Z"

/-- The machine with nothing on its disk but the working directory. -/
def machine : IO Machine := do
  let working ← IO.currentDir
  let place := (Path.steps ⟨working.toString⟩).filter (· ≠ []) |>.map String.ofList
  let environment ← environment
  let disk : Disk := ⟨[], place⟩
  return ⟨disk.putDirs place, ← home environment, environment, ← timeNow⟩

/-- Makes what is new on a disk. -/
def carryOut (before after : Disk) : IO Unit :=
  for (place, content) in after.entries do
    if before.at? place ≠ some content then
      match content with
      | .directory => IO.FS.createDir (textOf place)
      | .file octets => IO.FS.writeBinFile (textOf place) ⟨octets.toArray⟩

/-- A run with some arguments; its exit status. -/
def run (args : List String) : IO UInt32 := do
  let mut m ← machine
  for _ in List.range CommandLine.reachRounds do
    m ← fillReach m args
  let report := CommandLine.report m args
  carryOut m.disk report.disk
  IO.print report.output
  for line in report.errorLines do
    IO.eprintln line
  return UInt32.ofNat report.exit.status

end AppConfig.Program

def main (args : List String) : IO UInt32 := AppConfig.Program.run args

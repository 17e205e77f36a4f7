import AppConfig.CommandLine.LogFilter
import AppConfig.CommandLine.Options
import AppConfig.Compile
import AppConfig.Files.Disk
import AppConfig.Plan.Written
import AppConfig.Settings.Sources

/-! # The command line

* `Machine`: the disk, the home directory, the environment and the time of a run.
* `LogLine`: a line of the log; `LogFile`: the file that is logged to, if there is one.
* `Report`: what a run leaves: the exit code, the output, notices, the log, a complaint, and the
  disk.
* `CommandLine.report`: the report of a run with some arguments.

A run reads its settings, opens the log, compiles the input, shows the diagnostics, prints the
plan when it is asked to, and makes the output directory last. Each of these may end the run. The
log is written while the run goes on: an input that is the file which is logged to holds what has
been logged before it is read.
-/

namespace AppConfig
set_option autoImplicit false

/-- What a run finds. -/
structure Machine where
  disk : Disk
  /-- The home directory that the system gives; an empty path if it gives none. -/
  home : Path
  environment : Environment
  /-- The time, as a log file gives it. -/
  time : String

/-- The home directory, if there is one. -/
def Machine.home? (m : Machine) : Option Path := if m.home.isEmpty then none else some m.home

def Machine.host (m : Machine) : Host := m.disk.host m.home?

/-! ## Lines of the log -/

/-- The digits of a number in hexadecimal. -/
def hexText (n : Nat) : List Char := Nat.toDigits 16 n

/-- A character of a message as the log shows it: those that could steer a terminal by number. -/
def shielded (c : Char) : List Char :=
  let n := c.toNat
  if n = 0x07 || n = 0x08 || n = 0x0C then '\\' :: 'x' :: '0' :: hexText n
  else if n = 0x1B || n = 0x7F then '\\' :: 'x' :: hexText n
  else if 0x80 ≤ n && n ≤ 0x9F then '\\' :: 'u' :: '\x7b' :: hexText n ++ ['\x7d']
  else [c]

/-- A message as the log shows it. -/
def shield (message : String) : String := String.ofList (message.toList.flatMap shielded)

/-- A line of the log. -/
structure LogLine where
  level : LogLevel
  /-- The part of the program that logs. -/
  source : String
  message : String
  deriving DecidableEq, Repr

namespace LogLine

/-- The line on the error channel. -/
def text (l : LogLine) : String := s!"{l.level.text} {l.source}: {shield l.message}"

/-- The blanks that give a level five places. -/
def indent (l : LogLine) : String := String.ofList (List.replicate (5 - l.level.text.length) ' ')

/-- The line in a file. -/
def record (time : String) (l : LogLine) : String := s!"{time} {l.indent}{l.text}\n"

end LogLine

/-! ## The log file -/

/-- The file that is logged to, if there is one. -/
structure LogFile where
  path : Option Path
  /-- The time of the lines. -/
  time : String

namespace LogFile

/-- The octets of a file with some lines. -/
def octets (f : LogFile) (lines : List LogLine) : List UInt8 :=
  lines.flatMap fun l => (l.record f.time).toUTF8.toList

/-- The disk with some lines in the file, in place of those before. -/
def write (f : LogFile) (disk : Disk) (lines : List LogLine) : Disk :=
  match f.path with
  | none => disk
  | some path =>
    match disk.writeFile path (f.octets lines) with
    | .ok disk => disk
    | .error _ => disk

/-- Makes the directory of a file. -/
def makeDir (disk : Disk) (path : Path) : Disk × Except String Unit :=
  match path.parent? with
  | none => (disk, .ok ())
  | some dir =>
    let (disk, made) := disk.makeDirs dir
    (disk, made.mapError fun e => s!"creating log directory {dir.text}: {e.message}")

/-- Makes an empty file in its directory. -/
def make (disk : Disk) (path : Path) : Disk × Except String Unit :=
  match makeDir disk path with
  | (disk, .error complaint) => (disk, .error complaint)
  | (disk, .ok ()) =>
    match disk.writeFile path [] with
    | .ok disk => (disk, .ok ())
    | .error e => (disk, .error s!"creating log file {path.text}: {e.message}")

/-- Makes the file that is logged to. -/
def create (f : LogFile) (disk : Disk) : Disk × Except String Unit :=
  match f.path with
  | none => (disk, .ok ())
  | some path => make disk path

end LogFile

/-! ## Reports -/

/-- What a run leaves. -/
structure Report where
  exit : ExitCode
  /-- The text on the output channel. -/
  output : String
  /-- The lines of the log, which go to the error channel. -/
  log : List LogLine
  /-- A last line on the error channel that is not part of the log. -/
  complaint : Option String
  disk : Disk
  /-- Lines on the error channel before the log, about how it is filtered. -/
  notices : List String := []

/-- The lines on the error channel. -/
def Report.errorLines (r : Report) : List String :=
  r.notices ++ r.log.map LogLine.text ++ r.complaint.toList

namespace CommandLine

def versionText : String := "wolfes-cg 0.1.0\n"

def helpText : String :=
  "Compile a WOLfes app configuration into generator IR\n\n" ++
  "Usage: wolfes-cg [OPTIONS]\n\n" ++
  "Options:\n" ++
  "      --loglevel <LOGLEVEL>  Log level: DEBUG=10, INFO=20, WARN=30, ERROR=40, CRITICAL=50\n" ++
  "  -i, --input <INPUT>        Input config file path\n" ++
  "  -o, --output <OUTPUT>      Directory for generated files\n" ++
  "      --config <CONFIG>      Tool configuration file (TOML)\n" ++
  "      --dump-ir              Print the validated IR as JSON\n" ++
  "  -h, --help                 Print help\n" ++
  "  -V, --version              Print version\n"

/-! ## What is logged -/

/-- The part of the program that the command line logs as. -/
def source : String := "wolfes_cg"

/-- A line of the log, if it is shown. -/
def logLine (f : LogFilter) (level : LogLevel) (source message : String) : List LogLine :=
  if f.shows level source then [⟨level, source, message⟩] else []

def own (f : LogFilter) (level : LogLevel) (message : String) : List LogLine :=
  logLine f level source message

def eventLines (f : LogFilter) (j : Journal) : List LogLine :=
  j.events.flatMap fun e => logLine f e.level e.source e.message

/-- The level at which a diagnostic is shown. -/
def diagnosticLevel (d : Diagnostic) : LogLevel :=
  match d.severity with
  | .info => .info
  | .warning => .warn

def diagnosticLines (f : LogFilter) (ds : Diagnostics) : List LogLine :=
  ds.flatMap fun d => own f (diagnosticLevel d) d.display

/-! ## A run -/

/-- A run that only prints a text. -/
def answer (disk : Disk) (text : String) : Report :=
  { exit := .success, output := text, log := [], complaint := none, disk }

/-- A run that ends with a complaint. -/
def stop (disk : Disk) (exit : ExitCode) (complaint : String) : Report :=
  { exit, output := "", log := [], complaint := some complaint, disk }

/-- The end of a run that compiled its input: the plan is printed if asked for, and the output
directory is made. -/
def deliver (f : LogFilter) (disk : Disk) (printed : String) (output : Path)
    (log : List LogLine) : Report :=
  match disk.makeDirs output with
  | (disk, .error e) =>
    { exit := .failure, output := printed, log, disk
      complaint := some s!"Error: creating output directory {output.text}: {e.message}" }
  | (disk, .ok ()) =>
    { exit := .success, output := printed, complaint := none, disk
      log := log ++ own f .warn
        s!"no generator back end available, nothing written to {output.text}" }

/-- What is printed of a plan. -/
def printed (layout : Layout) (dump : Bool) (plan : Plan) : String :=
  if dump then plan.toJson.render layout ++ "\n" else ""

/-- What is logged of a journal: its events, then its diagnostics. -/
def journalLines (f : LogFilter) (j : Journal) : List LogLine :=
  eventLines f j ++ diagnosticLines f j.diagnostics

/-- A run with an input and an output. The first line is logged before the input is read. -/
def compileInput (f : LogFilter) (file : LogFile) (disk : Disk) (home : Option Path)
    (layout : Layout) (dump : Bool) (input : String) (output : Path) : Report :=
  let first := own f .info s!"input: {input}, output: {output.text}"
  let disk := file.write disk first
  let x := compileFile (disk.host home) ⟨input⟩
  let log := first ++ journalLines f x.journal
  match x.result with
  | .error fault =>
    { exit := fault.code, output := "", log := log ++ own f .error fault.message
      complaint := none, disk }
  | .ok plan =>
    deliver f disk (printed layout dump plan) output
      (log ++ own f .info s!"compiled {input}: {plan.summary.display}")

/-- What a run leaves when an option it needs is missing. -/
def missing (f : LogFilter) (disk : Disk) (option : String) : Report :=
  { exit := .invalidArgument, output := helpText, complaint := none, disk
    log := own f .error s!"command line missing {option}" }

/-- Where a run writes: the command line wins over the settings. -/
def outputPath (s : Settings) (o : Options) : Option Path :=
  (o.output.map Path.mk).or s.output.directory

/-- A run whose log is open. -/
def withLog (f : LogFilter) (file : LogFile) (disk : Disk) (home : Option Path) (s : Settings)
    (o : Options) : Report :=
  match o.input with
  | none => missing f disk "--input"
  | some input =>
    match outputPath s o with
    | none => missing f disk "--output"
    | some output => compileInput f file disk home s.output.layout o.dump input output

/-- Which events are shown, and the lines about that: a variable that is a filter wins over the
settings and the command line. -/
def filterOf (environment : Environment) (level : String) : LogFilter × List String :=
  match (environment.lookup "RUST_LOG").bind LogFilter.ofText? with
  | some f => (f, [])
  | none => LogFilter.ofTextLossy level

/-- The report with its whole log in the file that is logged to. -/
def keepLog (file : LogFile) (r : Report) : Report :=
  { r with disk := file.write r.disk r.log }

/-- A run whose settings and log filter are known. -/
def withFilter (m : Machine) (s : Settings) (o : Options) (f : LogFilter) : Report :=
  let file : LogFile := ⟨s.logFile m.home?, m.time⟩
  match file.create m.disk with
  | (disk, .error complaint) => stop disk .failure s!"Error: {complaint}"
  | (disk, .ok ()) => keepLog file (withLog f file disk m.home? s o)

/-- A run whose settings and log level are known. -/
def withLevel (m : Machine) (s : Settings) (o : Options) (level : String) : Report :=
  let (f, notices) := filterOf m.environment level
  { withFilter m s o f with notices }

/-- The level of the log that the command line or the settings ask for, if it is known. -/
def level? (s : Settings) (number : Option Nat) : Option String :=
  match number with
  | none => some s.logging.level
  | some n => LogLevel.ofNumber? n

/-- A run whose settings are known. -/
def withSettings (m : Machine) (s : Settings) (o : Options) : Report :=
  match level? s o.logLevel with
  | some level => withLevel m s o level
  | none => stop m.disk .invalidArgument s!"invalid loglevel: {o.logLevel.getD 0}"

/-- A run with its options. -/
def run (m : Machine) (o : Options) : Report :=
  match Settings.load m.host m.environment o.settings with
  | .error e => stop m.disk .failure s!"Error: loading tool configuration: {e.message}"
  | .ok s => withSettings m s o

/-- The report of a run with some arguments. -/
def report (m : Machine) (args : List String) : Report :=
  match Invocation.ofArguments args with
  | .error e => stop m.disk .invalidArgument s!"error: {e.message}"
  | .ok .help => answer m.disk helpText
  | .ok .version => answer m.disk versionText
  | .ok (.run o) => run m o

end CommandLine
end AppConfig

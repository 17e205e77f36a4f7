import AppConfig.CommandLine.Run
import AppConfig.Proofs.Compile.Files
import AppConfig.Proofs.Compile.VersionGate
import AppConfig.Proofs.Files.Directories

/-! # What the command line reports

* `LogFile.grown_create`, `LogFile.grown_write`: a log makes its directory and its file, no more.
* `CommandLine.inputDisk`: the disk that the input is read on, when the log is open.
* `ReportsFault`, `ReportsPlan`: the reports of a run whose input is refused, and of one whose input
  is compiled. `RefusesLevel`: a run with an unknown level of the log.
* `faithful_report`: a run with settings and a log reports what becomes of its input.
-/

namespace AppConfig
set_option autoImplicit false
open Disk (Grown ancestry HasDirectory)

/-! ## The log file -/

namespace LogFile

variable {f : LogFile}

/-- The paths of the directories that the file is in. -/
def directories (f : LogFile) : List Path := (f.path.bind Path.parent?).toList.flatMap ancestry

def files (f : LogFile) : List Path := f.path.toList

/-- The path is that of a file. -/
def IsNamed (f : LogFile) : Prop := ∀ p ∈ f.path, p.chars.getLast? ≠ some '/'

theorem grown_write (h : f.IsNamed) (disk : Disk) (lines : List LogLine) :
    Grown [] f.files disk (f.write disk lines) := by
  rcases f with ⟨path, time⟩
  cases path with
  | none => exact .refl _ _ disk
  | some p =>
    simp only [write]
    split
    · next hwrite => exact Disk.Grown.writeFile (h p rfl) hwrite
    · exact .refl _ _ disk

theorem grown_makeDir (disk : Disk) (p : Path) :
    Grown (p.parent?.toList.flatMap ancestry) [] disk (makeDir disk p).1 := by
  unfold makeDir
  split
  · exact .refl _ _ disk
  · next dir hdir =>
    rw [hdir, Option.toList_some, List.flatMap_singleton]
    exact Disk.grown_makeDirs disk dir

theorem grown_make {p : Path} (h : p.chars.getLast? ≠ some '/') (disk : Disk) :
    Grown (p.parent?.toList.flatMap ancestry) [p] disk (make disk p).1 := by
  have hdir := (grown_makeDir disk p).mono (List.Subset.refl _) (List.nil_subset [p])
  unfold make
  rcases hmade : makeDir disk p with ⟨disk', complaint | ⟨⟩⟩
  · rw [hmade] at hdir
    exact hdir
  · rw [hmade] at hdir
    dsimp only
    split
    · next hwrite =>
      exact hdir.trans ((Disk.Grown.writeFile h hwrite).mono (List.nil_subset _)
        (List.Subset.refl [p]))
    · exact hdir

theorem grown_create (h : f.IsNamed) (disk : Disk) :
    Grown f.directories f.files disk (f.create disk).1 := by
  rcases f with ⟨path, time⟩
  cases path with
  | none => exact .refl _ _ disk
  | some p => exact grown_make (h p rfl) disk

end LogFile

namespace CommandLine

variable {m : Machine} {s : Settings} {o : Options} {args : List String} {input : String}
  {target : Path} {n : Nat} {fault : Fault} {plan : Plan}

/-- The file that a run logs to. -/
def logFile (m : Machine) (s : Settings) : LogFile := ⟨s.logFile m.home?, m.time⟩

theorem isNamed_logFile (m : Machine) (s : Settings) : (logFile m s).IsNamed := by
  intro p hp
  have hname : Settings.logFileName.isAbsolute = false := rfl
  have hlast : ∀ front : List Char,
      (front ++ Settings.logFileName.chars).getLast? ≠ some '/' := by
    intro front
    have hend : Settings.logFileName.chars.getLast? = some 'g' := rfl
    rw [List.getLast?_append, hend]
    simp
  simp only [logFile, Settings.logFile] at hp
  split at hp
  · obtain ⟨dir, -, rfl⟩ := Option.map_eq_some_iff.mp hp
    rcases Path.chars_join dir hname with ⟨hchars, -⟩ | hchars
    · rw [hchars]
      exact hlast _
    · rw [hchars, List.append_cons]
      exact hlast _
  · cases hp

/-! ## Runs -/

/-- The numbers of the levels of the log. -/
def levelNumbers : List Nat := [10, 20, 30, 40, 50]

theorem ofNumber?_eq_none (h : n ∉ levelNumbers) : LogLevel.ofNumber? n = none := by
  unfold LogLevel.ofNumber?
  split <;> simp_all [levelNumbers]

theorem exists_level (h : ∀ n, o.logLevel = some n → n ∈ levelNumbers) :
    ∃ level, level? s o.logLevel = some level := by
  have hnumber : ∀ n ∈ levelNumbers, ∃ level, LogLevel.ofNumber? n = some level := by
    simp [levelNumbers, LogLevel.ofNumber?]
  cases hlevel : o.logLevel with
  | none => exact ⟨_, rfl⟩
  | some n => exact hnumber n (h n hlevel)

/-- Which events a run shows. -/
def shownBy (m : Machine) (s : Settings) (o : Options) : LogFilter :=
  (filterOf m.environment ((level? s o.logLevel).getD "")).1

/-- The disk that the input is read on: the log is open, and what is shown of its first line is in
its file. -/
def inputDisk (m : Machine) (s : Settings) (o : Options) (input : String) (target : Path) : Disk :=
  (logFile m s).write ((logFile m s).create m.disk).1
    (own (shownBy m s o) .info s!"input: {input}, output: {target.text}")

/-- The report of a run whose log is open, but for the notices about the filter. -/
def reportOn (m : Machine) (s : Settings) (o : Options) (input : String) (target : Path) : Report :=
  keepLog (logFile m s) (compileInput (shownBy m s o) (logFile m s)
    ((logFile m s).create m.disk).1 m.home? s.output.layout o.dump input target)

theorem report_eq (hargs : Invocation.ofArguments args = .ok (.run o))
    (hsettings : Settings.load m.host m.environment o.settings = .ok s) :
    report m args = withSettings m s o := by
  rw [report, hargs]
  show run m o = _
  rw [run, hsettings]

theorem report_of_unknown (hargs : Invocation.ofArguments args = .ok (.run o))
    (hsettings : Settings.load m.host m.environment o.settings = .ok s)
    (hlevel : o.logLevel = some n) (hn : n ∉ levelNumbers) :
    report m args = stop m.disk .invalidArgument s!"invalid loglevel: {n}" := by
  rw [report_eq hargs hsettings, withSettings, hlevel, level?, ofNumber?_eq_none hn]
  rfl

theorem report_of_known (hargs : Invocation.ofArguments args = .ok (.run o))
    (hsettings : Settings.load m.host m.environment o.settings = .ok s)
    (hlevel : ∀ n, o.logLevel = some n → n ∈ levelNumbers)
    (hlog : ((logFile m s).create m.disk).2 = .ok ()) (hinput : o.input = some input)
    (htarget : outputPath s o = some target) :
    ∃ notices, report m args = { reportOn m s o input target with notices } := by
  obtain ⟨level, hlevel⟩ := exists_level (s := s) hlevel
  rw [report_eq hargs hsettings, withSettings, hlevel, reportOn, shownBy, hlevel]
  refine ⟨(filterOf m.environment level).2, ?_⟩
  have hfilter : withFilter m s o (filterOf m.environment level).1 =
      keepLog (logFile m s) (withLog (filterOf m.environment level).1 (logFile m s)
        ((logFile m s).create m.disk).1 m.home? s o) := by
    rw [withFilter, ← logFile]
    generalize (logFile m s).create m.disk = made at hlog
    obtain ⟨disk, made⟩ := made
    obtain rfl : made = .ok () := hlog
    rfl
  show { withFilter m s o (filterOf m.environment level).1 with
    notices := (filterOf m.environment level).2 } = _
  rw [hfilter, withLog, hinput, htarget]
  rfl

theorem grown_inputDisk (m : Machine) (s : Settings) (o : Options) (input : String)
    (target : Path) : Grown (logFile m s).directories (logFile m s).files m.disk
      (inputDisk m s o input target) := by
  have hopened := LogFile.grown_create (isNamed_logFile m s) m.disk
  have hwritten := LogFile.grown_write (isNamed_logFile m s) ((logFile m s).create m.disk).1
    (own (shownBy m s o) .info s!"input: {input}, output: {target.text}")
  exact hopened.trans (hwritten.mono (List.nil_subset _) (List.Subset.refl _))

theorem inputDisk_of_none (h : s.logFile m.home? = none) :
    inputDisk m s o input target = m.disk := by
  rw [inputDisk, logFile, h]
  rfl

/-! ## What is reported -/

/-- The run ends with the class of the fault and prints nothing. The log is all that it leaves. -/
structure ReportsFault (m : Machine) (s : Settings) (fault : Fault) (r : Report) : Prop where
  exit : r.exit = fault.code
  status : r.exit.status ≠ 0
  output : r.output = ""
  disk : Grown (logFile m s).directories (logFile m s).files m.disk r.disk

/-- The run prints the plan if it is asked to, and then makes a directory. The exit status tells
whether the directory is there in the end. -/
structure ReportsPlan (m : Machine) (s : Settings) (o : Options) (target : Path) (plan : Plan)
    (seen : Disk) (r : Report) : Prop where
  output : r.output = if o.dump then plan.toJson.render s.output.layout ++ "\n" else ""
  status : r.exit.status = 0 ∧ (seen.makeDirs target).2 = .ok () ∧ r.disk.HasDirectory target ∨
    r.exit.status = 1 ∧ (seen.makeDirs target).2 ≠ .ok () ∧ ¬ r.disk.HasDirectory target
  disk : Grown ((logFile m s).directories ++ ancestry target) (logFile m s).files m.disk r.disk

/-- The run reports what becomes of its input. -/
structure ReportsInput (m : Machine) (s : Settings) (o : Options) (input : String) (target : Path)
    (r : Report) : Prop where
  seen : Grown (logFile m s).directories (logFile m s).files m.disk (inputDisk m s o input target)
  unlogged : s.logFile m.home? = none → inputDisk m s o input target = m.disk
  refused : ∀ fault,
    (compileFile ((inputDisk m s o input target).host m.home?) ⟨input⟩).result = .error fault →
      ReportsFault m s fault r
  compiled : ∀ plan,
    (compileFile ((inputDisk m s o input target).host m.home?) ⟨input⟩).result = .ok plan →
      ReportsPlan m s o target plan (inputDisk m s o input target) r

/-- The run ends with a wrong argument, prints nothing, and does the same on every machine with
settings, whatever else is on the disk. -/
structure RefusesLevel (m : Machine) (args : List String) (o : Options) : Prop where
  status : (report m args).exit.status = 3
  output : (report m args).output = ""
  unread : ∀ m' : Machine, (∃ s, Settings.load m'.host m'.environment o.settings = .ok s) →
    report m' args = { report m args with disk := m'.disk }

theorem reportOn_of_error
    (h : (compileFile ((inputDisk m s o input target).host m.home?) ⟨input⟩).result =
      .error fault) :
    ∃ log, reportOn m s o input target = keepLog (logFile m s)
      { exit := fault.code, output := "", log, complaint := none
        disk := inputDisk m s o input target } := by
  rw [inputDisk] at h
  simp only [reportOn, compileInput, h]
  exact ⟨_, rfl⟩

theorem reportOn_of_ok
    (h : (compileFile ((inputDisk m s o input target).host m.home?) ⟨input⟩).result = .ok plan) :
    ∃ log, reportOn m s o input target = keepLog (logFile m s)
      (deliver (shownBy m s o) (inputDisk m s o input target)
        (printed s.output.layout o.dump plan) target log) := by
  rw [inputDisk] at h
  simp only [reportOn, compileInput, h]
  exact ⟨_, rfl⟩

theorem deliver_cases (f : LogFilter) (disk : Disk) (text : String) (target : Path)
    (log : List LogLine) : (deliver f disk text target log).output = text ∧
      (deliver f disk text target log).disk = (disk.makeDirs target).1 ∧
      ((deliver f disk text target log).exit = .success ∧ (disk.makeDirs target).2 = .ok () ∨
        (deliver f disk text target log).exit = .failure ∧ (disk.makeDirs target).2 ≠ .ok ()) := by
  unfold deliver
  rcases disk.makeDirs target with ⟨disk', fault | ⟨⟩⟩
  · exact ⟨rfl, rfl, .inr ⟨rfl, fun h => by cases h⟩⟩
  · exact ⟨rfl, rfl, .inl ⟨rfl, rfl⟩⟩

theorem reportsFault_of_error
    (h : (compileFile ((inputDisk m s o input target).host m.home?) ⟨input⟩).result = .error fault)
    (notices : List String) :
    ReportsFault m s fault { reportOn m s o input target with notices } := by
  obtain ⟨log, hreport⟩ := reportOn_of_error h
  have hwritten := LogFile.grown_write (isNamed_logFile m s) (inputDisk m s o input target) log
  have hstatus : fault.code.status ≠ 0 := fun hzero =>
    fault.code_ne_success (ExitCode.status_injective hzero)
  rw [hreport]
  exact ⟨rfl, hstatus, rfl, (grown_inputDisk m s o input target).trans
    (hwritten.mono (List.nil_subset _) (List.Subset.refl _))⟩

theorem reportsPlan_of_ok
    (h : (compileFile ((inputDisk m s o input target).host m.home?) ⟨input⟩).result = .ok plan)
    (notices : List String) :
    ReportsPlan m s o target plan (inputDisk m s o input target)
      { reportOn m s o input target with notices } := by
  obtain ⟨log, hreport⟩ := reportOn_of_ok h
  have hseen := grown_inputDisk m s o input target
  generalize inputDisk m s o input target = seen at hreport hseen ⊢
  rw [hreport]
  obtain ⟨houtput, hdisk, hexit⟩ := deliver_cases (shownBy m s o) seen
    (printed s.output.layout o.dump plan) target log
  generalize deliver (shownBy m s o) seen (printed s.output.layout o.dump plan) target log = r
    at houtput hdisk hexit ⊢
  have hmade := Disk.grown_makeDirs seen target
  rw [← hdisk] at hmade
  have hwritten := LogFile.grown_write (isNamed_logFile m s) r.disk r.log
  -- The log goes into its file once more, which makes no directories.
  have hthere : ((logFile m s).write r.disk r.log).HasDirectory target ↔
      (seen.makeDirs target).2 = .ok () := by
    rw [HasDirectory, hwritten.isDirectory_eq, hdisk]
    exact (seen.makeDirs_ok_iff target).symm
  refine ⟨houtput, ?_, ?_⟩
  · rcases hexit with ⟨hexit, hok⟩ | ⟨hexit, hfailed⟩
    · exact .inl ⟨by rw [keepLog, hexit]; rfl, hok, hthere.mpr hok⟩
    · exact .inr ⟨by rw [keepLog, hexit]; rfl, hfailed, fun h => hfailed (hthere.mp h)⟩
  · have hlog := List.subset_append_left (logFile m s).directories (ancestry target)
    have houtput := List.subset_append_right (logFile m s).directories (ancestry target)
    exact ((hseen.mono hlog (List.Subset.refl _)).trans
      (hmade.mono houtput (List.nil_subset _))).trans
        (hwritten.mono (List.nil_subset _) (List.Subset.refl _))

/-- A run with options, settings and a log, an input and a place for its output, reports what becomes
of the input. A run with an unknown level of the log is refused before. -/
theorem faithful_report (hargs : Invocation.ofArguments args = .ok (.run o))
    (hsettings : Settings.load m.host m.environment o.settings = .ok s) :
    (∀ n, o.logLevel = some n → n ∉ levelNumbers → RefusesLevel m args o) ∧
    ((∀ n, o.logLevel = some n → n ∈ levelNumbers) →
      ((logFile m s).create m.disk).2 = .ok () → ∀ input target, o.input = some input →
        outputPath s o = some target → ReportsInput m s o input target (report m args)) := by
  refine ⟨fun n hlevel hn => ?_, fun hlevel hlog input target hinput htarget => ?_⟩
  · have hreport : ∀ m' : Machine,
        (∃ s, Settings.load m'.host m'.environment o.settings = .ok s) →
          report m' args = stop m'.disk .invalidArgument s!"invalid loglevel: {n}" :=
      fun m' ⟨_, hsettings'⟩ => report_of_unknown hargs hsettings' hlevel hn
    have hown := hreport m ⟨s, hsettings⟩
    refine ⟨by rw [hown]; rfl, by rw [hown]; rfl, fun m' hm' => ?_⟩
    rw [hown, hreport m' hm']
    rfl
  · obtain ⟨notices, hreport⟩ := report_of_known hargs hsettings hlevel hlog hinput htarget
    rw [hreport]
    exact ⟨grown_inputDisk m s o input target, inputDisk_of_none,
      fun fault hfault => reportsFault_of_error hfault notices,
      fun plan hplan => reportsPlan_of_ok hplan notices⟩

/-! ## A document without apps

It stands in the working directory, where nothing else is. -/

def smallMachine : Machine where
  disk := ⟨[(["work"], .directory),
    (["work", "app.json"], .file (Text.Utf8.encode (textWith "1.0").toList))], ["work"]⟩
  home := ⟨"/home/user"⟩
  environment := []
  time := ""

def smallHost : Host := smallMachine.host

def smallArguments (input : String) : List String := ["-i", input, "--output=out/gen", "--dump-ir"]

def smallOptions (input : String) : Options :=
  { input := some input, output := some "out/gen", dump := true }

def smallPlan : Plan :=
  { platform := .linux, language := .cpp, version := ⟨1, 0, 0, 0⟩, apps := [],
    customMessages := [] }

theorem compileText_smallHost : (compileText smallHost none (textWith "1.0")).result =
    .ok smallPlan := by
  have hdecode : (decode (textWith "1.0")).result = .ok (.object (membersWith "1.0")) :=
    decode_textWith ['1', '.', '0'] rfl rfl
  rw [compileText, Outcome.bind_result_ok]
  exact ⟨_, hdecode, rfl⟩

theorem compileFile_smallHost : (compileFile smallHost ⟨"app.json"⟩).result = .ok smallPlan := by
  have hoctets : smallHost.read ⟨"app.json"⟩ =
      .ok (Text.Utf8.encode (textWith "1.0").toList) := rfl
  have htext : 2 ≤ (textWith "1.0").length := by decide
  have hpath : IsGoodPath smallHost ⟨"app.json"⟩ := ⟨by decide, fun _ => by decide⟩
  have hload := shows_loadAt_of_text rfl hoctets
  rw [textOfOctets_encode htext] at hload
  exact (shows_compileFile_ok hpath hload).result.trans compileText_smallHost

theorem compileFile_absent :
    (compileFile smallHost ⟨"gone.json"⟩).result = .error (.fileNotFound ⟨"gone.json"⟩) := by
  have hpath : IsGoodPath smallHost ⟨"gone.json"⟩ := ⟨by decide, fun _ => by decide⟩
  exact (shows_compileFile_error hpath (shows_loadAt_absent rfl)).result

theorem faithful_report_smallMachine :
    ((report smallMachine (smallArguments "app.json")).exit.status = 0 ∧
      (report smallMachine (smallArguments "app.json")).output =
        smallPlan.toJson.render .pretty ++ "\n" ∧
      (report smallMachine (smallArguments "app.json")).disk.HasDirectory ⟨"out/gen"⟩) ∧
    ((report smallMachine (smallArguments "gone.json")).exit = .fileNotFound ∧
      (report smallMachine (smallArguments "gone.json")).output = "") ∧
    (report smallMachine ("--loglevel=15" :: smallArguments "app.json")).exit.status = 3 := by
  have hsettings : Settings.load smallMachine.host smallMachine.environment none = .ok {} := rfl
  have hreports : ∀ input,
      Invocation.ofArguments (smallArguments input) = .ok (.run (smallOptions input)) →
        ReportsInput smallMachine {} (smallOptions input) input ⟨"out/gen"⟩
          (report smallMachine (smallArguments input)) :=
    fun input hargs => (faithful_report hargs hsettings).2 (fun n h => by cases h) rfl _ _ rfl rfl
  refine ⟨?_, ?_, ?_⟩
  · have hreport := hreports "app.json" rfl
    have hplan := hreport.compiled smallPlan (by
      rw [hreport.unlogged rfl]
      exact compileFile_smallHost)
    have hmade : ((inputDisk smallMachine {} (smallOptions "app.json") "app.json"
        ⟨"out/gen"⟩).makeDirs ⟨"out/gen"⟩).2 = .ok () := by
      rw [hreport.unlogged rfl]
      rfl
    rcases hplan.status with ⟨hstatus, -, hthere⟩ | ⟨-, hfailed, -⟩
    · exact ⟨hstatus, hplan.output, hthere⟩
    · exact absurd hmade hfailed
  · have hreport := hreports "gone.json" rfl
    have hfault := hreport.refused _ (by
      rw [hreport.unlogged rfl]
      exact compileFile_absent)
    exact ⟨hfault.exit, hfault.output⟩
  · have hlevel : (15 : Nat) ∉ levelNumbers := by decide
    have hargs : Invocation.ofArguments ("--loglevel=15" :: smallArguments "app.json") =
        .ok (.run { smallOptions "app.json" with logLevel := some 15 }) := rfl
    exact ((faithful_report hargs hsettings).1 15 rfl hlevel).status

end CommandLine
end AppConfig

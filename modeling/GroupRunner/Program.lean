import GroupRunner.Log.Filter
import GroupRunner.Options.Reading
import GroupRunner.Options.Usage
import GroupRunner.Report.Record
import GroupRunner.Report.Table
import GroupRunner.Report.Text
import GroupRunner.Suite

set_option autoImplicit false

namespace GroupRunner

namespace Options

def config (options : Options) (binary : String) (extraArgs : List String) : Config :=
  let base : Config := { binary := .ofString binary, extraArgs }
  { base with
    ignore := if options.ignore.isEmpty then base.ignore else .ofList options.ignore
    expectedStderr :=
      if options.expectStderr.isEmpty then base.expectedStderr else options.expectStderr
    pruneThreshold := options.pruneThreshold.getD base.pruneThreshold }

def prepare (options : Options) (root : Path) : Except RunError Config :=
  match ensureTestsDirectory root with
  | .error e => .error e
  | .ok () =>
    match options.args with
    | [] => .error (.precondition missingBinaryText)
    | binary :: extraArgs => .ok (options.config binary extraArgs)

end Options

namespace Program

structure Outcome where
  result : Except RunError Nat
  printed : List String := []
  -- The lines on error output, but for the log.
  complaints : List String := []
  events : List Log.Event := []

def preconditionExitCode : Nat := 1

def listGroups (root : Path) (config : Config) (fs : FileSystem) : Outcome :=
  match Suite.select root config fs with
  | .error e => { result := .error e, events := Suite.noted root config fs }
  | .ok (groups, events) =>
    { result := .ok 0, printed := [renderGroupList (groups.map (·.name))], events }

def reportTexts (host : Host) (options : Options) (report : Report) : List String :=
  let style := host.terminal.style options.noColor
  (if options.summary then [report.table style host.terminal.paintCell] else []) ++
    [report.render style]

def record (host : Host) (options : Options) (config : Config) (report : Report)
    (fs : FileSystem) : Except RunError (List Log.Event) × FileSystem :=
  match options.jsonReport with
  | none => (.ok [], fs)
  | some path =>
    match report.writeRecord config host.now path fs with
    | (.error e, fs) => (.error e, fs)
    | (.ok (), fs) => (.ok [Report.recordEvent path], fs)

def runGroups (host : Host) (root : Path) (options : Options) (config : Config)
    (fs : FileSystem) : Outcome × FileSystem :=
  match Suite.run host root config fs with
  | (.error e, after) =>
    ({ result := .error e, printed := [config.renderCommand]
       events := Suite.noted root config fs }, after)
  | (.ok run, fs) =>
    let printed := config.renderCommand :: reportTexts host options run.report
    match record host options config run.report fs with
    | (.error e, fs) => ({ result := .error e, printed, events := run.events }, fs)
    | (.ok events, fs) =>
      ({ result := .ok run.report.exitCode, printed, events := run.events ++ events }, fs)

def runIn (host : Host) (root : Path) (options : Options) (fs : FileSystem) :
    Outcome × FileSystem :=
  match options.prepare root with
  | .error e =>
    if e.isPrecondition then
      ({ result := .ok preconditionExitCode, complaints := [e.message] }, fs)
    else ({ result := .error e }, fs)
  | .ok config =>
    if options.list then (listGroups root config fs, fs)
    else runGroups host root options config fs

def run (host : Host) (options : Options) (fs : FileSystem) : Outcome × FileSystem :=
  runIn host (FileSystem.pathTo fs.cwd) options fs

structure Finished where
  code : Nat
  stdout : String
  stderr : String
  deriving DecidableEq, Repr

def asLines (texts : List String) : String :=
  String.join (texts.map (· ++ "\n"))

def failureExitCode : Nat := 1

def errorText (e : RunError) : String :=
  "Error: " ++ e.message ++ "\n" ++
    (match e.cause? with
      | none => ""
      | some cause => "\nCaused by:\n    " ++ cause ++ "\n")

def setupEvent : Log.Event :=
  { level := .debug, source := .setup, message := "Logger initialized" }

namespace Outcome

def finish (filter : Log.Filter) (outcome : Outcome) : Finished :=
  let noted := asLines (filter.lines outcome.events) ++ asLines outcome.complaints
  match outcome.result with
  | .ok code => ⟨code, asLines outcome.printed, noted⟩
  | .error e => ⟨failureExitCode, asLines outcome.printed, noted ++ errorText e⟩

end Outcome

def stop (reason : OptionStop) : Finished :=
  if reason.isError then ⟨reason.exitCode, "", reason.message⟩
  else ⟨reason.exitCode, reason.message, ""⟩

def execute (host : Host) (filter : Log.Filter) (arguments : List String) (fs : FileSystem) :
    Finished × FileSystem :=
  match Options.ofArguments arguments with
  | .error reason =>
    let finished := stop reason
    ({ finished with stderr := asLines (filter.lines [setupEvent]) ++ finished.stderr }, fs)
  | .ok options =>
    let (outcome, fs) := run host options fs
    ({ outcome with events := setupEvent :: outcome.events }.finish filter, fs)

end Program

end GroupRunner

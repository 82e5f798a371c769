import GroupRunner.Capture
import GroupRunner.Config
import GroupRunner.Log.Event
import GroupRunner.Result
import GroupRunner.RunError
import GroupRunner.Style
import GroupRunner.Time.Timestamp

set_option autoImplicit false

namespace GroupRunner

structure Launch where
  binary : Path
  arguments : List String
  directory : Path
  stdout : Location
  stderr : Location

-- What the runner does not decide itself: what a started program does to the files and how it
-- ends, what the clock shows and where the output goes.
structure Host where
  launch : Launch → FileSystem → Except IoError Exit × FileSystem
  groupTime : TestGroup → Duration := fun _ => .zero
  totalTime : Duration := .zero
  now : Timestamp := .epoch
  terminal : Terminal := {}

namespace TestGroup

def stdoutPath (group : TestGroup) : Path := group.path.join (.ofString stdoutFile)

def stderrPath (group : TestGroup) : Path := group.path.join (.ofString stderrFile)

end TestGroup

namespace Execution

def openCapture (path : Path) (fs : FileSystem) : Except RunError (Location × FileSystem) :=
  match fs.create path with
  | .error e => .error (.capture path.display e)
  | .ok opened => .ok opened

def launchOf (config : Config) (group : TestGroup) (stdout stderr : Location) : Launch where
  binary := config.binary
  arguments := config.arguments
  directory := group.path
  stdout := stdout
  stderr := stderr

def start (host : Host) (config : Config) (group : TestGroup) (fs : FileSystem) :
    Except RunError Exit × FileSystem :=
  match openCapture group.stdoutPath fs with
  | .error e => (.error e, fs)
  | .ok (stdout, fs) =>
    match openCapture group.stderrPath fs with
    | .error e => (.error e, fs)
    | .ok (stderr, fs) =>
      match host.launch (launchOf config group stdout stderr) fs with
      | (.error e, fs) => (.error (.launch config.binary.display e), fs)
      | (.ok exit, fs) => (.ok exit, fs)

def statusOf : Except RunError Exit → Status
  | .ok exit => .ofExit exit
  | .error (.capture path cause) => .captureFailed (RunError.capture path cause).message
  | .error e => .launchFailed e.message

def showStatus : Status → String
  | .exited code => "Exited(" ++ toString code ++ ")"
  | .terminated (some signal) => "Terminated(Some(" ++ toString signal ++ "))"
  | .terminated none => "Terminated(None)"
  | .launchFailed reason => "LaunchFailed(" ++ Text.quote reason ++ ")"
  | .captureFailed reason => "CaptureFailed(" ++ Text.quote reason ++ ")"

def startEvents (group : TestGroup) : Except RunError Exit → List Log.Event
  | .ok _ => []
  | .error e => [
    { level := .warn, source := .execution
      message := match e with
        | .capture .. => "Output capture failed"
        | _ => "Test binary could not be launched"
      fields := [("group", group.name), ("error", e.message)] }]

def finishEvent (group : TestGroup) (status : Status) (duration : Duration) : Log.Event :=
  { level := .debug, source := .execution, message := "Group finished"
    fields := [("group", group.name), ("status", showStatus status),
      ("duration_ms", toString duration.wordMillis)] }

def pruneEvents (group : TestGroup) (stream : String) (path : Path) :
    Except IoError Pruned → List Log.Event
  | .ok (.removed size) => [
    { level := .debug, source := .captures, message := "Pruned trivial artifact"
      fields := [("path", path.display), ("size", toString size)] }]
  | .ok _ => []
  | .error e => [
    { level := .warn, source := .execution, message := "Failed to prune " ++ stream ++ " capture"
      fields := [("group", group.name), ("error", e.message)] }]

-- A capture also counts as kept if it could not be looked at or taken away.
def keptPath (path : Path) : Except IoError Pruned → Option Path
  | .ok pruned => if pruned.isKept then some path else none
  | .error _ => some path

def readKept (path : Path) (fs : FileSystem) : String :=
  match Capture.read path fs with
  | .ok text => text
  | .error e => "<failed to read " ++ path.display ++ ": " ++ e.message ++ ">"

structure GroupRun where
  result : GroupResult
  events : List Log.Event

def collect (config : Config) (group : TestGroup) (status : Status) (duration : Duration)
    (fs : FileSystem) : GroupRun × FileSystem :=
  let (stdout, fs) := Capture.prune group.stdoutPath config.pruneThreshold fs
  let (stderr, fs) := Capture.prune group.stderrPath config.pruneThreshold fs
  let stderrPath := keptPath group.stderrPath stderr
  ({ result :=
      { group, status, duration
        stdoutPath := keptPath group.stdoutPath stdout
        stderrPath
        stderr := stderrPath.map fun path => readKept path fs
        stderrExpected := stderrPath.isSome && config.expectsStderr group.name }
     events := pruneEvents group "stdout" group.stdoutPath stdout ++
      pruneEvents group "stderr" group.stderrPath stderr }, fs)

def runGroup (host : Host) (config : Config) (group : TestGroup) (fs : FileSystem) :
    GroupRun × FileSystem :=
  let (exit, fs) := start host config group fs
  let status := statusOf exit
  let duration := host.groupTime group
  let (run, fs) := collect config group status duration fs
  ({ run with
      events := startEvents group exit ++ finishEvent group status duration :: run.events }, fs)

def runGroups (host : Host) (config : Config) :
    List TestGroup → FileSystem → List GroupRun × FileSystem
  | [], fs => ([], fs)
  | group :: rest, fs =>
    let (run, fs) := runGroup host config group fs
    let (runs, fs) := runGroups host config rest fs
    (run :: runs, fs)

end Execution

end GroupRunner
